import Mathlib.Data.List.Basic
import ImportBoundary.Proofs.Path.Containment
import ImportBoundary.Proofs.Path.Reached

/-!
# Paths below a root

A relative text that does not climb out of where it begins can be read behind the text of any absolute
directory: it only adds segments to those of the directory (`fold_appendChars`). Looking at the path
that comes out from the directory takes the added segments off again, and what is left is the path of
the relative text (`relativeTo_behind`). So a path below a root may be written with or without the
root.
-/

namespace ImportBoundary.Path

variable {absolute : Bool} {stack base segments names : List Segment}

/-- The path begins with a segment `..`. -/
def Climbs (p : Path) : Prop := isUnder p.text ".."

instance (p : Path) : Decidable p.Climbs := inferInstanceAs (Decidable (isUnder p.text ".." = true))

/-- A text behind the text of a directory, and a slash between them unless the directory ends in
one. -/
def behind (dir text : String) : String := String.ofList (appendChars dir.toList text.toList)

/-! ## Folding on top of a directory

`fold` begins with an empty stack, and behind a directory it would begin with the stack of the
directory. Its steps look at the top of the stack only, so what a text does to a stack of its own it
does on top of any other one, unless a segment `..` reaches below.
-/

/-- Where a path has climbed, it stays so. -/
theorem up_mem_push (mem : up ∈ stack) (s : Segment) : up ∈ push absolute stack s := by
  unfold push
  split
  · exact mem
  · split
    · cases stack with
      | nil => cases mem
      | cons top below =>
          show up ∈ if top = up then _ else below
          split
          · split
            · exact mem
            · exact List.mem_cons_of_mem up mem
          · next name => exact (List.mem_cons.mp mem).resolve_left fun same => name same.symm
    · exact List.mem_cons_of_mem s mem

theorem up_mem_foldl (mem : up ∈ stack) : up ∈ segments.foldl (push absolute) stack := by
  induction segments generalizing stack with
  | nil => exact mem
  | cons s segments ih => exact ih (up_mem_push mem s)

/-- A segment that does not climb out of a stack leaves what is below the stack alone. -/
theorem push_append {s : Segment} (stays : up ∉ push false stack s) :
    push absolute (stack ++ base) s = push false stack s ++ base := by
  unfold push at stays ⊢
  split
  · rfl
  · next other =>
    rw [if_neg other] at stays
    split
    · next climbs =>
      rw [if_pos climbs] at stays
      cases stack with
      | nil => exact absurd List.mem_cons_self stays
      | cons top below =>
          have name : top ≠ up := by
            rintro rfl
            exact stays List.mem_cons_self
          show (if top = up then _ else below ++ base) = (if top = up then _ else below) ++ base
          rw [if_neg name, if_neg name]
    · rfl

/-- Segments that do not climb out of a stack leave what is below the stack alone. -/
theorem foldl_push_append (stays : up ∉ segments.foldl (push false) stack) :
    segments.foldl (push absolute) (stack ++ base) =
      segments.foldl (push false) stack ++ base := by
  induction segments generalizing stack with
  | nil => rfl
  | cons s segments ih =>
      have first : up ∉ push false stack s := by
        intro mem
        apply stays
        show up ∈ segments.foldl (push false) (push false stack s)
        exact up_mem_foldl mem
      rw [List.foldl_cons, List.foldl_cons, push_append first]
      exact ih stays

/-- The slash between a directory and a text adds no segment. -/
theorem foldl_pieces_appendChars {dir s : List Char} (unrooted : s.head? ≠ some '/') :
    (pieces (appendChars dir s)).foldl (push absolute) stack =
      (pieces s).foldl (push absolute) ((pieces dir).foldl (push absolute) stack) := by
  have skip (stack : List Segment) : push absolute stack [] = stack := rfl
  unfold appendChars
  rw [if_neg unrooted]
  split
  · next closed =>
    rcases List.eq_nil_or_concat' dir with rfl | ⟨init, c, rfl⟩
    · rfl
    · have slash : c = '/' := by simpa using closed
      have split : pieces (init ++ ['/']) = pieces init ++ [[]] := pieces_append init []
      rw [slash, List.append_assoc, List.singleton_append, pieces_append, split, List.foldl_append,
        List.foldl_append, List.foldl_cons, List.foldl_nil, skip]
  · rw [pieces_append, List.foldl_append]

theorem fold_appendChars {root s : List Char} (unrooted : ¬ Rooted s)
    (stays : up ∉ fold false (pieces s)) :
    fold true (pieces (appendChars root s)) =
      fold true (pieces root) ++ fold false (pieces s) := by
  unfold fold at stays ⊢
  rw [List.mem_reverse] at stays
  rw [foldl_pieces_appendChars fun first => unrooted (.inl first), ← List.reverse_append]
  exact congrArg List.reverse (foldl_push_append stays)

/-! ## Looking from the root

`relativeTo` compares texts: it takes the text of the directory off and then a slash. That the text of
a path begins with the text of the directory is not enough, so the segments that are added have to be
there as segments, behind a slash.
-/

/-- Joined segments end with a character of the last segment. -/
theorem exists_intercalate_eq_concat (ne : segments ≠ []) (plain : ∀ s ∈ segments, Plain s) :
    ∃ init c, List.intercalate ['/'] segments = init ++ [c] ∧ c ≠ '/' := by
  obtain ⟨before, last, rfl⟩ := (List.eq_nil_or_concat' segments).resolve_left ne
  have last_plain : Plain last := plain last (by simp)
  obtain ⟨chars, c, rfl⟩ := (List.eq_nil_or_concat' last).resolve_left last_plain.ne_nil
  have other : c ≠ '/' := by
    rintro rfl
    exact last_plain.slash (by simp)
  by_cases empty : before = []
  · refine ⟨chars, c, ?_, other⟩
    rw [empty, List.nil_append, List.intercalate_singleton]
  · refine ⟨List.intercalate ['/'] before ++ '/' :: chars, c, ?_, other⟩
    rw [Text.intercalate_append empty (List.cons_ne_nil _ _), List.intercalate_singleton,
      List.append_assoc, List.cons_append]

theorem intercalate_append_ne (ne : names ≠ []) (plain : ∀ s ∈ names, Plain s) :
    List.intercalate ['/'] (base ++ names) ≠ List.intercalate ['/'] base := by
  by_cases top : base = []
  · obtain ⟨c, rest, joined, -⟩ := exists_intercalate_eq_cons ne plain
    rw [top, List.nil_append, joined]
    exact List.cons_ne_nil c rest
  · intro same
    have longer := congrArg List.length same
    rw [Text.intercalate_append top ne, List.length_append, List.length_cons] at longer
    omega

theorem trimEndSlashes_concat {init : List Char} {c : Char} (h : c ≠ '/') :
    trimEndSlashes (init ++ [c]) = init ++ [c] := by
  unfold trimEndSlashes
  simp [h]

theorem trimEndSlashes_prefix (s : List Char) : trimEndSlashes s <+: s := by
  unfold trimEndSlashes
  rw [← List.reverse_suffix, List.reverse_reverse]
  exact List.dropWhile_suffix _

/-- The path of names below a directory is seen from the directory as the names. -/
theorem relativeTo_of_append (named_base : ∀ s ∈ base, Named s) (named : ∀ s ∈ names, Named s) :
    relativeTo ⟨String.ofList ('/' :: List.intercalate ['/'] (base ++ names))⟩
        ⟨String.ofList ('/' :: List.intercalate ['/'] base)⟩ =
      ⟨String.ofList (spell false names)⟩ := by
  have plain : ∀ s ∈ names, Plain s := fun s mem => (named s mem).toPlain
  have plain_base : ∀ s ∈ base, Plain s := fun s mem => (named_base s mem).toPlain
  by_cases none : names = []
  · rw [none, List.append_nil]
    exact if_pos rfl
  -- The directory without its last slash, and what stands behind it.
  have split : '/' :: List.intercalate ['/'] (base ++ names) =
      trimEndSlashes ('/' :: List.intercalate ['/'] base) ++
        '/' :: List.intercalate ['/'] names := by
    by_cases top : base = []
    · rw [top]
      rfl
    · obtain ⟨init, c, joined, other⟩ := exists_intercalate_eq_concat top plain_base
      rw [Text.intercalate_append top none, joined, ← List.cons_append, ← List.cons_append,
        trimEndSlashes_concat other]
  obtain ⟨c, rest, joined, slash, -⟩ := exists_intercalate_eq_cons none plain
  have other : (⟨String.ofList ('/' :: List.intercalate ['/'] (base ++ names))⟩ : Path) ≠
      ⟨String.ofList ('/' :: List.intercalate ['/'] base)⟩ := by
    intro same
    have texts := congrArg Path.toList same
    rw [toList_ofList, toList_ofList] at texts
    exact intercalate_append_ne none plain (List.cons.inj texts).2
  unfold relativeTo
  rw [if_neg other, toList_ofList, toList_ofList, split, Text.strip?_append]
  show (⟨String.ofList (normalizeChars _)⟩ : Path) = _
  have kept : (List.intercalate ['/'] names).dropWhile (· = '/') = List.intercalate ['/'] names := by
    rw [joined, List.dropWhile_cons_of_neg (by simpa using slash)]
  have canonical : normalizeChars (List.intercalate ['/'] names) = List.intercalate ['/'] names :=
    normalizeChars_relative (n := 0) none named
  rw [kept, canonical, spell_false none plain]

theorem relativeTo_of_relative {p dir : Path} (relative : p.toList.head? ≠ some '/')
    (absolute : dir.toList.head? = some '/') : p.relativeTo dir = p := by
  unfold relativeTo
  rw [if_neg (by rintro rfl; exact relative absolute)]
  split
  · next rest found =>
    -- What is stripped is empty or starts with the slash of the directory, and a slash follows.
    have split := Text.strip?_eq_some_iff.mp found
    obtain ⟨tail, whole⟩ := trimEndSlashes_prefix dir.toList
    refine absurd ?_ relative
    rw [split]
    cases trimmed : trimEndSlashes dir.toList with
    | nil => rfl
    | cons c more =>
        rw [← whole, trimmed] at absolute
        exact absolute
  · rfl

/-! ## Texts behind the text of a root

The two facts are put together here, for texts as they come in. A root need not be canonical, and it
may end in a slash.
-/

/-- A relative text that does not climb is made of names. -/
theorem named_of_not_climbs {text : String} (unrooted : ¬ Rooted text.toList)
    (stays : ¬ (normalize text).Climbs) : ∀ s ∈ fold false (pieces text.toList), Named s := by
  obtain ⟨n, names, split, -, named⟩ := exists_fold_pieces false text.toList
  cases n with
  | zero =>
      rw [split]
      exact named
  | succ n =>
      -- The text is spelled with the first of the segments that climb in front.
      refine absurd (isUnder_iff.mpr ?_) stays
      have plain : ∀ s ∈ List.replicate (n + 1) up ++ names, Plain s :=
        fun _ mem => plain_of_mem named mem
      have spelled : (normalize text).toList =
          List.intercalate ['/'] (List.replicate (n + 1) up ++ names) := by
        rw [toList_normalize, normalizeChars_of_not_rooted unrooted, split]
        exact spell_false (List.cons_ne_nil _ _) plain
      by_cases alone : List.replicate n up ++ names = []
      · refine ⟨[], spelled.trans ?_, continues_nil⟩
        rw [List.replicate_succ, List.cons_append, alone]
        rfl
      · refine ⟨'/' :: List.intercalate ['/'] (List.replicate n up ++ names), spelled.trans ?_,
          continues_cons.mpr rfl⟩
        rw [List.replicate_succ, List.cons_append, List.intercalate_cons_of_ne_nil alone,
          List.append_assoc]
        rfl

theorem head?_appendChars {dir s : List Char} (ne : dir ≠ []) (unrooted : s.head? ≠ some '/') :
    (appendChars dir s).head? = dir.head? := by
  obtain ⟨c, rest, rfl⟩ := List.exists_cons_of_ne_nil ne
  unfold appendChars
  rw [if_neg unrooted]
  split <;> rfl

/-- What stands behind a directory does not change where a text starts. -/
theorem rooted_behind_iff {dir text : String} (ne : dir.toList ≠ [])
    (unrooted : ¬ Rooted text.toList) : Rooted (behind dir text).toList ↔ Rooted dir.toList := by
  rw [Rooted, behind, String.toList_ofList, head?_appendChars ne fun h => unrooted (.inl h), Rooted]

theorem Rooted.ne_nil {s : List Char} (h : Rooted s) : s ≠ [] := by
  rintro rfl
  rcases h with h | h <;> cases h

/-- A relative text that does not climb stands for the same path without and behind a root, when the
path is seen from the root. -/
theorem relativeTo_behind {root text : String} (rooted : Rooted root.toList)
    (unrooted : ¬ Rooted text.toList) (stays : ¬ (normalize text).Climbs) :
    (normalize (behind root text)).relativeTo (normalize root) = normalize text := by
  have named := named_of_not_climbs unrooted stays
  have no_up : up ∉ fold false (pieces text.toList) := fun mem => (named up mem).ne_up rfl
  have rooted_behind : Rooted (behind root text).toList :=
    (rooted_behind_iff rooted.ne_nil unrooted).mpr rooted
  have spelled : normalize (behind root text) = ⟨String.ofList ('/' :: List.intercalate ['/']
      (fold true (pieces root.toList) ++ fold false (pieces text.toList)))⟩ := by
    rw [normalize, normalizeChars_of_rooted rooted_behind, behind, String.toList_ofList,
      fold_appendChars unrooted no_up]
  have spelled_root : normalize root =
      ⟨String.ofList ('/' :: List.intercalate ['/'] (fold true (pieces root.toList)))⟩ := by
    rw [normalize, normalizeChars_of_rooted rooted]
  rw [spelled, spelled_root, relativeTo_of_append (fun _ mem => named_of_mem_fold_pieces mem) named,
    ← normalizeChars_of_not_rooted unrooted]
  rfl

/-- A relative text stands for the same path when the path is seen from a root. -/
theorem relativeTo_of_not_rooted {root text : String} (rooted : Rooted root.toList)
    (unrooted : ¬ Rooted text.toList) :
    (normalize text).relativeTo (normalize root) = normalize text := by
  apply relativeTo_of_relative
  · rw [toList_normalize]
    exact fun first => unrooted (head?_normalizeChars.mp first)
  · rw [toList_normalize]
    exact head?_normalizeChars.mpr rooted

end ImportBoundary.Path
