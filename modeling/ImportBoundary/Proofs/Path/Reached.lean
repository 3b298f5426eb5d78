import Mathlib.Data.List.Basic
import ImportBoundary.Proofs.Path.Canonical

/-!
# All paths are canonical

A path is made by normalizing a text, and from then on by joining a text to a path, by going to the
directory of a path, and by looking at a path from another one. Going up cuts the text of a path and
does not normalize again, so this is where the canonical form has to be kept by hand
(`Canonical.of_beforeLast?`). Every path that is reached in these ways is canonical
(`canonical_of_reached`).
-/

namespace ImportBoundary.Path

/-- The paths that are made of texts and of other paths. The text of a path may be taken as a text
again, as it is when a path passes through a buffer of the host. -/
inductive Reached : Path → Prop
  | normalize (s : String) : Reached (normalize s)
  | root : Reached root
  | respelled {p : Path} (reached : Reached p) : Reached (Path.normalize p.text)
  | join {p : Path} (reached : Reached p) (segment : String) : Reached (p.join segment)
  | parent {p dir : Path} (reached : Reached p) (found : p.parent? = some dir) : Reached dir
  | relativeTo {p dir : Path} (reached : Reached p) (from_reached : Reached dir) :
      Reached (p.relativeTo dir)

/-! ## Directories

The directory of a path is what stands before its last slash. Joined segments are cut there between two
segments, so the text before it is made of fewer segments, and it is canonical for the same reason as
the whole text was.
-/

theorem beforeLast?_intercalate {last : Segment} (plain : Plain last) {init : List Segment}
    (ne : init ≠ []) :
    Text.beforeLast? '/' (List.intercalate ['/'] (init ++ [last])) =
      some (List.intercalate ['/'] init) := by
  rw [Text.intercalate_append ne (List.cons_ne_nil _ _), List.intercalate_singleton]
  exact Text.beforeLast?_append_cons plain.slash

/-- The text before the last segment is canonical, or there is none. -/
theorem Canonical.of_beforeLast? {s dir : List Char} (h : Canonical s)
    (found : Text.beforeLast? '/' s = some dir) : dir = [] ∨ Canonical dir := by
  cases h with
  | here => cases found
  | top =>
      left
      exact (Option.some.inj found).symm
  | @absolute names ne named =>
      obtain ⟨init, last, rfl⟩ := (List.eq_nil_or_concat' names).resolve_left ne
      rw [List.forall_mem_append, List.forall_mem_singleton] at named
      by_cases empty : init = []
      · left
        rw [empty, List.nil_append, List.intercalate_singleton, ← List.nil_append ('/' :: last),
          Text.beforeLast?_append_cons named.2.slash] at found
        exact (Option.some.inj found).symm
      · right
        rw [Text.intercalate_append empty (List.cons_ne_nil _ _), List.intercalate_singleton,
          ← List.cons_append, Text.beforeLast?_append_cons named.2.slash] at found
        rw [← Option.some.inj found]
        exact .absolute empty named.1
  | @relative n names ne named =>
      -- The last segment is a name, or one that climbs if there are no names.
      have cut : ∃ k init last,
          List.replicate n up ++ names = List.replicate k up ++ init ++ [last] ∧
            (∀ s ∈ init, Named s) ∧ Plain last := by
        rcases List.eq_nil_or_concat' names with rfl | ⟨init, last, rfl⟩
        · obtain - | k := n
          · exact absurd rfl ne
          · exact ⟨k, [], up, by simp [List.replicate_succ'], nofun, plain_up⟩
        · rw [List.forall_mem_append, List.forall_mem_singleton] at named
          exact ⟨n, init, last, (List.append_assoc _ _ _).symm, named.1, named.2.toPlain⟩
      obtain ⟨k, init, last, split, named, plain⟩ := cut
      rw [split] at found
      by_cases empty : List.replicate k up ++ init = []
      · rw [empty, List.nil_append, List.intercalate_singleton,
          Text.beforeLast?_of_not_mem plain.slash] at found
        cases found
      · right
        rw [beforeLast?_intercalate plain empty] at found
        rw [← Option.some.inj found]
        exact .relative k empty named

/-! ## Operations

Joining and looking from a directory end in `normalize`, except where a path is handed on as it is.
Going up is the one operation that needs the induction hypothesis.
-/

theorem toList_ofList (s : List Char) : toList ⟨String.ofList s⟩ = s :=
  String.toList_ofList

theorem toList_normalize (s : String) : (normalize s).toList = normalizeChars s.toList :=
  toList_ofList _

theorem canonical_normalize (s : String) : Canonical (normalize s).toList := by
  rw [toList_normalize]
  exact canonical_normalizeChars _

theorem canonical_parent {p dir : Path} (h : Canonical p.toList) (found : p.parent? = some dir) :
    Canonical dir.toList := by
  obtain ⟨before, cut, rfl⟩ := Option.map_eq_some_iff.mp found
  rw [toList_ofList]
  split
  · exact .top
  · next ne => exact (h.of_beforeLast? cut).resolve_left ne

theorem canonical_relativeTo {p dir : Path} (h : Canonical p.toList) :
    Canonical (p.relativeTo dir).toList := by
  unfold relativeTo
  split
  · exact canonical_normalize "."
  · split
    · rw [toList_ofList]
      exact canonical_normalizeChars _
    · exact h

theorem canonical_of_reached {p : Path} (h : Reached p) : Canonical p.toList := by
  induction h with
  | normalize s => exact canonical_normalize s
  | root => exact canonical_normalize "."
  | @respelled p _ _ => exact canonical_normalize p.text
  | join _ segment _ =>
      rw [join, toList_ofList]
      exact canonical_normalizeChars _
  | parent _ found ih => exact canonical_parent ih found
  | relativeTo _ _ ih _ => exact canonical_relativeTo ih

theorem isAbsolute_normalize_iff (s : String) : (normalize s).isAbsolute ↔ Rooted s.toList := by
  rw [isAbsolute, toList_normalize, decide_eq_true_iff]
  exact head?_normalizeChars

theorem normalize_eq_iff (s : String) : normalize s = ⟨s⟩ ↔ Canonical s.toList := by
  rw [← normalizeChars_eq_self_iff, ← toList_normalize]
  constructor
  · intro same
    rw [same]
    rfl
  · intro same
    exact congrArg Path.mk (String.toList_inj.mp same)

/-- Every text has a canonical form, which is absolute if the text starts with a slash or a
backslash. The canonical texts are those that are their own form, and the paths that are made of
texts and paths have canonical texts only. -/
theorem canonical_form :
    (∀ s : String, Canonical (normalize s).toList) ∧
      (∀ s : String, (normalize s).isAbsolute ↔
        s.toList.head? = some '/' ∨ s.toList.head? = some '\\') ∧
      (∀ s : String, normalize s = ⟨s⟩ ↔ Canonical s.toList) ∧
      (∀ s : String, normalize (normalize s).text = normalize s) ∧
      ∀ p : Path, Reached p → Canonical p.toList := by
  refine ⟨canonical_normalize, isAbsolute_normalize_iff, normalize_eq_iff, ?_, ?_⟩
  · intro s
    exact (normalize_eq_iff _).mpr (canonical_normalize s)
  · intro p reached
    exact canonical_of_reached reached

/-- The directory of a path that is written with both slashes and empty segments, climbs out of where
it begins, and is looked at from a directory that does not hold it. -/
theorem canonical_form_climbing :
    ∃ p : Path, Reached p ∧ Canonical p.toList ∧ p.text = "../lib" := by
  have joined : Reached ((normalize "src\\app/./x").join "..//../../..\\lib/form") :=
    .join (.normalize _) _
  have seen : Reached (((normalize "src\\app/./x").join "..//../../..\\lib/form").relativeTo
      (normalize "/work//")) :=
    .relativeTo joined (.normalize _)
  have up : Reached ⟨"../lib"⟩ := .parent seen (by decide +kernel)
  exact ⟨_, up, canonical_form.2.2.2.2 _ up, rfl⟩

end ImportBoundary.Path
