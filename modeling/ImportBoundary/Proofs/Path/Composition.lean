import Mathlib.Data.List.Induction
import ImportBoundary.Proofs.Path.Segments

/-!
# Resolving a path in several steps

A text may be normalized as a whole, or piece by piece as its parts become known. Normalizing a part
early replaces its segments by the ones that folding keeps of them. These do to a stack what all the
segments do, in a relative part on any stack (`foldl_push_fold_false`), and in an absolute part at least
on the empty one (`foldl_push_fold_nil`): below its root a segment `..` is lost, and would not be lost
on top of other segments. As the beginning of a text stands on the empty stack, and what follows is
relative, it does not matter which parts are normalized first (`normalizeChars_append_slash`,
`normalizeChars_slash_append`), nor in how many steps a text is joined to a path
(`normalizeChars_appendChars_appendChars`).
-/

namespace ImportBoundary.Path

variable {absolute : Bool} {stack kept segments : List Segment} {a b : List Char}

/-! ## Folding what is folded already

The induction adds one segment at the end of a text, as folding does. The segment may take away the
last one that was kept, and then the kept segments have done one thing more than all segments: they
have pushed a name that is taken away again.
-/

theorem push_of_idle {s : Segment} (idle : s = [] ∨ s = ['.']) : push absolute stack s = stack :=
  if_pos idle

/-- A segment `..` takes a name away. -/
theorem push_up_of_named {s : Segment} (named : Named s) : push absolute (s :: stack) up = stack := by
  unfold push
  rw [if_neg (by decide), if_pos rfl]
  exact if_neg named.ne_up

theorem push_up_ups (n : Nat) : push false (List.replicate n up) up = List.replicate (n + 1) up := by
  cases n <;> rfl

/-- What is kept behind one more segment does to any stack what was kept before does, and then the
segment. -/
theorem foldl_push_reverse_push (settled : Settled false kept) {s : Segment} (slash : '/' ∉ s)
    (backslash : '\\' ∉ s) :
    (push false kept s).reverse.foldl (push absolute) stack =
      push absolute (kept.reverse.foldl (push absolute) stack) s := by
  have behind (top : Segment) : (top :: kept).reverse.foldl (push absolute) stack =
      push absolute (kept.reverse.foldl (push absolute) stack) top := by
    rw [List.reverse_cons, List.foldl_append]
    rfl
  by_cases idle : s = [] ∨ s = ['.']
  · rw [push_of_idle idle, push_of_idle idle]
  · by_cases climbs : s = up
    · subst climbs
      cases settled with
      | ups n =>
          rw [push_up_ups, List.replicate_succ]
          exact behind up
      | @name top below named =>
          -- The name was pushed on the other stack as well, and is taken away from both.
          rw [push_up_of_named named, List.reverse_cons, List.foldl_append, List.foldl_cons,
            List.foldl_nil, push_of_named named, push_up_of_named named]
    · rw [not_or] at idle
      rw [push_of_named ⟨⟨idle.1, slash, backslash⟩, idle.2, climbs⟩]
      exact behind s

/-- The segments that are kept of a relative text do to any stack what all its segments do. -/
theorem foldl_push_fold_false (clean : ∀ s ∈ segments, '/' ∉ s ∧ '\\' ∉ s) :
    (fold false segments).foldl (push absolute) stack = segments.foldl (push absolute) stack := by
  induction segments using List.reverseRecOn with
  | nil => rfl
  | append_singleton segments s ih =>
      rw [List.forall_mem_append, List.forall_mem_singleton] at clean
      have settled : Settled false (segments.foldl (push false) []) := settled_nil.foldl clean.1
      calc (fold false (segments ++ [s])).foldl (push absolute) stack
          = (push false (segments.foldl (push false) []) s).reverse.foldl (push absolute) stack := by
            rw [fold, List.foldl_append, List.foldl_cons, List.foldl_nil]
        _ = push absolute ((fold false segments).foldl (push absolute) stack) s :=
            foldl_push_reverse_push settled clean.2.1 clean.2.2
        _ = push absolute (segments.foldl (push absolute) stack) s := by rw [ih clean.1]
        _ = (segments ++ [s]).foldl (push absolute) stack := by
            rw [List.foldl_append, List.foldl_cons, List.foldl_nil]

/-- The segments that are kept of a text do to the empty stack what all its segments do. -/
theorem foldl_push_fold_nil (absolute : Bool) (s : List Char) :
    (fold absolute (pieces s)).foldl (push absolute) [] = (pieces s).foldl (push absolute) [] := by
  cases absolute with
  | false => exact foldl_push_fold_false fun _ mem => not_mem_of_mem_pieces mem
  | true =>
      rw [foldl_push_of_named fun _ mem => named_of_mem_fold_pieces mem, List.append_nil]
      exact List.reverse_reverse _

/-! ## Texts that come to the same path

Two texts come to the same path if they begin in the same way and their segments do the same to the
empty stack (`normalizeChars_congr`). What normalizing early does to a text is said in these terms.
-/

/-- The text of a path does to a stack what its segments do. -/
theorem foldl_pieces_spell (kind : Bool) (plain : ∀ s ∈ segments, Plain s) :
    (pieces (spell kind segments)).foldl (push absolute) stack =
      segments.foldl (push absolute) stack := by
  by_cases ne : segments = []
  · rw [ne]
    cases kind <;> rfl
  · have joined := pieces_intercalate ne plain
    cases kind with
    | false => rw [spell_false ne plain, joined]
    | true =>
        have split : pieces (spell true segments) = [] :: segments :=
          (pieces_append [] _).trans (congrArg (List.cons []) joined)
        rw [split]
        rfl

theorem plain_of_mem_fold_pieces {s : Segment} (mem : s ∈ fold absolute (pieces a)) : Plain s := by
  obtain ⟨n, names, split, -, named⟩ := exists_fold_pieces absolute a
  rw [split] at mem
  exact plain_of_mem named mem

theorem normalizeChars_eq_spell (start : absolute = true ↔ Rooted a) :
    normalizeChars a = spell absolute (fold absolute (pieces a)) := by
  cases absolute with
  | true => exact normalizeChars_of_rooted (start.mp rfl)
  | false => exact normalizeChars_of_not_rooted fun rooted => absurd (start.mpr rooted) (by decide)

/-- A normalized text does to the empty stack what the text does. -/
theorem foldl_pieces_normalizeChars (start : absolute = true ↔ Rooted a) :
    (pieces (normalizeChars a)).foldl (push absolute) [] = (pieces a).foldl (push absolute) [] := by
  rw [normalizeChars_eq_spell start, foldl_pieces_spell _ fun _ => plain_of_mem_fold_pieces]
  exact foldl_push_fold_nil absolute a

/-- A normalized relative text does to any stack what the text does. -/
theorem foldl_pieces_normalizeChars_of_not_rooted (unrooted : ¬ Rooted a) :
    (pieces (normalizeChars a)).foldl (push absolute) stack =
      (pieces a).foldl (push absolute) stack := by
  rw [normalizeChars_of_not_rooted unrooted, foldl_pieces_spell _ fun _ => plain_of_mem_fold_pieces]
  exact foldl_push_fold_false fun _ mem => not_mem_of_mem_pieces mem

theorem normalizeChars_congr (start : Rooted a ↔ Rooted b)
    (same : ∀ absolute, (absolute = true ↔ Rooted a) →
      (pieces a).foldl (push absolute) [] = (pieces b).foldl (push absolute) []) :
    normalizeChars a = normalizeChars b := by
  obtain ⟨absolute, kind⟩ : ∃ absolute : Bool, absolute = true ↔ Rooted a :=
    ⟨decide ((unifySlashes a).head? = some '/'), decide_eq_true_iff.trans head?_unifySlashes⟩
  rw [normalizeChars_eq_spell kind, normalizeChars_eq_spell (kind.trans start), fold, fold,
    same absolute kind]

theorem rooted_append (ne : a ≠ []) : Rooted (a ++ b) ↔ Rooted a := by
  obtain ⟨c, rest, rfl⟩ := List.exists_cons_of_ne_nil ne
  exact Iff.rfl

theorem rooted_normalizeChars : Rooted (normalizeChars a) ↔ Rooted a := by
  constructor
  · intro rooted
    by_contra unrooted
    exact not_rooted_normalizeChars unrooted rooted
  · intro rooted
    exact .inl (head?_normalizeChars.mpr rooted)

/-! ## Normalizing early or late

The side conditions are needed. An empty directory puts a slash in front and makes the text absolute,
and a text that is absolute is not joined but replaces the directory.
-/

/-- A directory may be normalized before a text is read in it. -/
theorem normalizeChars_append_slash (ne : a ≠ []) (b : List Char) :
    normalizeChars (normalizeChars a ++ '/' :: b) = normalizeChars (a ++ '/' :: b) := by
  have whole : Rooted (a ++ '/' :: b) ↔ Rooted a := rooted_append ne
  have early : Rooted (normalizeChars a ++ '/' :: b) ↔ Rooted a :=
    (rooted_append (canonical_normalizeChars a).ne_nil).trans rooted_normalizeChars
  refine normalizeChars_congr (early.trans whole.symm) fun absolute kind => ?_
  rw [pieces_append, pieces_append, List.foldl_append, List.foldl_append,
    foldl_pieces_normalizeChars (kind.trans early)]

/-- A relative text may be normalized before it is read in a directory. -/
theorem normalizeChars_slash_append (ne : a ≠ []) (unrooted : ¬ Rooted b) :
    normalizeChars (a ++ '/' :: normalizeChars b) = normalizeChars (a ++ '/' :: b) := by
  refine normalizeChars_congr ((rooted_append ne).trans (rooted_append ne).symm) fun absolute _ => ?_
  rw [pieces_append, pieces_append, List.foldl_append, List.foldl_append,
    foldl_pieces_normalizeChars_of_not_rooted unrooted]

/-- Joining is normalizing with a slash in between. -/
theorem normalizeChars_appendChars (ne : a ≠ []) (relative : b.head? ≠ some '/') :
    normalizeChars (appendChars a b) = normalizeChars (a ++ '/' :: b) := by
  have start : Rooted (appendChars a b) ↔ Rooted (a ++ '/' :: b) := by
    rw [rooted_append ne, Rooted, head?_appendChars ne relative, Rooted]
  refine normalizeChars_congr start fun absolute _ => ?_
  rw [foldl_pieces_appendChars relative, pieces_append, List.foldl_append]

/-- How a text is joined is decided by how it begins. -/
theorem appendChars_append (base : List Char) (ne : a ≠ []) (b : List Char) :
    appendChars base (a ++ b) = appendChars base a ++ b := by
  obtain ⟨c, rest, rfl⟩ := List.exists_cons_of_ne_nil ne
  unfold appendChars
  rw [List.cons_append, List.head?_cons, List.head?_cons]
  split
  · rfl
  · split
    · rw [List.append_assoc, List.cons_append]
    · rw [List.append_assoc, List.cons_append, List.cons_append]

theorem appendChars_ne_nil (base : List Char) (ne : a ≠ []) : appendChars base a ≠ [] := by
  unfold appendChars
  split
  · exact ne
  · split
    · exact List.append_ne_nil_of_right_ne_nil base ne
    · exact List.append_ne_nil_of_right_ne_nil base (List.cons_ne_nil _ _)

/-- Joining a directory and then a text is joining the two at once. -/
theorem normalizeChars_appendChars_appendChars (base : List Char) (ne : a ≠ [])
    (relative : b.head? ≠ some '/') :
    normalizeChars (appendChars (normalizeChars (appendChars base a)) b) =
      normalizeChars (appendChars base (a ++ '/' :: b)) := by
  rw [normalizeChars_appendChars (canonical_normalizeChars _).ne_nil relative,
    normalizeChars_append_slash (appendChars_ne_nil base ne), appendChars_append base ne]

/-- A text that is read in a directory comes to the same path if the directory is normalized first, and,
unless the text starts with a separator, if the text is. Joining a directory and then a text to a path
is joining the two at once, unless the text is absolute. -/
theorem normalize_stepwise :
    (∀ dir text : String, dir ≠ "" →
      normalize (dir ++ "/" ++ text) = normalize ((normalize dir).text ++ "/" ++ text)) ∧
    (∀ dir text : String, dir ≠ "" → ¬ Rooted text.toList →
      normalize (dir ++ "/" ++ text) = normalize (dir ++ "/" ++ (normalize text).text)) ∧
    ∀ (p : Path) (dir text : String), dir ≠ "" → text.toList.head? ≠ some '/' →
      (p.join dir).join text = p.join (dir ++ "/" ++ text) := by
  have chars (dir text : String) : (dir ++ "/" ++ text).toList = dir.toList ++ '/' :: text.toList := by
    rw [String.toList_append, String.toList_append, List.append_assoc]
    rfl
  have ne_chars {dir : String} (ne : dir ≠ "") : dir.toList ≠ [] :=
    fun none => ne (String.toList_eq_nil_iff.mp none)
  refine ⟨?_, ?_, ?_⟩
  · intro dir text ne
    have early : (normalize dir).text.toList = normalizeChars dir.toList := toList_normalize dir
    unfold normalize at early ⊢
    rw [chars, chars, early, normalizeChars_append_slash (ne_chars ne)]
  · intro dir text ne unrooted
    have early : (normalize text).text.toList = normalizeChars text.toList := toList_normalize text
    unfold normalize at early ⊢
    rw [chars, chars, early, normalizeChars_slash_append (ne_chars ne) unrooted]
  · intro p dir text ne relative
    unfold join
    rw [toList_ofList, chars, normalizeChars_appendChars_appendChars _ (ne_chars ne) relative]

/-- A directory that is written with both slashes and left by climbing, and a text that climbs further,
below a directory and below the root of the disk. -/
theorem normalize_stepwise_climbing :
    let dir := "src\\app/./.."
    let text := "../..\\lib//form"
    dir ≠ "" ∧ ¬ Rooted text.toList ∧ text.toList.head? ≠ some '/' ∧
      normalize ((normalize dir).text ++ "/" ++ text) = ⟨"../lib/form"⟩ ∧
      normalize (dir ++ "/" ++ (normalize text).text) = ⟨"../lib/form"⟩ ∧
      (normalize "/").join (dir ++ "/" ++ text) = ⟨"/lib/form"⟩ ∧
      ((normalize "/").join dir).join text = ⟨"/lib/form"⟩ := by
  intro dir text
  obtain ⟨early_dir, early_text, joined⟩ := normalize_stepwise
  have ne : dir ≠ "" := by decide
  have unrooted : ¬ Rooted text.toList := by
    rintro (slash | backslash)
    · exact absurd slash (by decide)
    · exact absurd backslash (by decide)
  have relative : text.toList.head? ≠ some '/' := fun h => unrooted (.inl h)
  have whole : normalize (dir ++ "/" ++ text) = ⟨"../lib/form"⟩ := by decide +kernel
  have below : (normalize "/").join (dir ++ "/" ++ text) = ⟨"/lib/form"⟩ := by decide +kernel
  refine ⟨ne, unrooted, relative, ?_, ?_, below, ?_⟩
  · rw [← early_dir dir text ne, whole]
  · rw [← early_text dir text ne unrooted, whole]
  · rw [joined (normalize "/") dir text ne relative, below]

end ImportBoundary.Path
