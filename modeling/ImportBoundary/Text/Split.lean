/-!
# Splitting and stripping text

Text is handled as a list of characters. `split` cuts at every occurrence of a separator, so
that `n` separators give `n + 1` pieces. Pieces without separators that are joined by
`List.intercalate` are split into the same pieces again (`split_intercalate`). `strip?` removes a
leading text and answers nothing when it is not there (`strip?_eq_some_iff`). `beforeLast?` cuts at the
last separator only.

`lines` is not `split` at line feeds: a carriage return at the end of a line belongs to the end of the
line, and behind the last line feed there is one more line only if there is text.
-/

namespace ImportBoundary.Text

/-- Cuts a text at every separator: `split '/' "a//b"` has the pieces `a`, the empty text and `b`. -/
def split (sep : Char) : List Char → List (List Char)
  | [] => [[]]
  | c :: rest =>
    if c = sep then [] :: split sep rest
    else match split sep rest with
      | [] => [[c]]
      | piece :: pieces => (c :: piece) :: pieces

theorem split_ne_nil (sep : Char) (s : List Char) : split sep s ≠ [] := by
  induction s with
  | nil => simp [split]
  | cons c rest ih =>
    unfold split
    split
    · simp
    · split <;> simp_all

/-- A text without separators is one piece, and it ends at the first separator behind it. -/
theorem split_of_not_mem {sep : Char} {piece : List Char} (h : sep ∉ piece) :
    split sep piece = [piece] := by
  induction piece with
  | nil => rfl
  | cons c rest ih =>
    rw [List.mem_cons, not_or] at h
    rw [split, if_neg (Ne.symm h.1), ih h.2]

/-- Two texts with a separator between them are split one after the other. -/
theorem split_append (sep : Char) (a b : List Char) :
    split sep (a ++ sep :: b) = split sep a ++ split sep b := by
  induction a with
  | nil =>
    show split sep (sep :: b) = [] :: split sep b
    rw [split, if_pos rfl]
  | cons c a ih =>
    rw [List.cons_append, split, split, ih]
    by_cases hc : c = sep
    · rw [if_pos hc, if_pos hc, List.cons_append]
    · obtain ⟨piece, pieces, h⟩ := List.exists_cons_of_ne_nil (split_ne_nil sep a)
      rw [if_neg hc, if_neg hc, h]
      rfl

theorem split_append_cons {sep : Char} {piece rest : List Char} (h : sep ∉ piece) :
    split sep (piece ++ sep :: rest) = piece :: split sep rest := by
  rw [split_append, split_of_not_mem h, List.singleton_append]

/-- Pieces without separators are what their joined text is split into. -/
theorem split_intercalate {sep : Char} {pieces : List (List Char)} (ne : pieces ≠ [])
    (h : ∀ piece ∈ pieces, sep ∉ piece) : split sep (List.intercalate [sep] pieces) = pieces := by
  induction pieces with
  | nil => exact absurd rfl ne
  | cons piece more ih =>
    obtain ⟨first, others⟩ := List.forall_mem_cons.mp h
    cases more with
    | nil => rw [List.intercalate_singleton, split_of_not_mem first]
    | cons next more =>
      rw [List.intercalate_cons_cons, List.append_assoc, List.singleton_append,
        split_append_cons first, ih (List.cons_ne_nil _ _) others]

/-- A piece has no separators, and no other characters than the text. -/
theorem mem_of_mem_split {sep c : Char} {s piece : List Char} (mem : piece ∈ split sep s)
    (inside : c ∈ piece) : c ≠ sep ∧ c ∈ s := by
  induction s generalizing piece with
  | nil =>
    obtain rfl := List.mem_singleton.mp mem
    cases inside
  | cons d rest ih =>
    unfold split at mem
    split at mem
    · rcases List.mem_cons.mp mem with rfl | mem
      · cases inside
      · exact (ih mem inside).imp_right (List.mem_cons_of_mem d)
    · next other =>
      obtain ⟨first, more, h⟩ := List.exists_cons_of_ne_nil (split_ne_nil sep rest)
      rw [h] at mem ih
      rcases List.mem_cons.mp mem with rfl | mem
      · rcases List.mem_cons.mp inside with rfl | inside
        · exact ⟨other, List.mem_cons_self⟩
        · exact (ih List.mem_cons_self inside).imp_right (List.mem_cons_of_mem d)
      · exact (ih (List.mem_cons_of_mem first mem) inside).imp_right (List.mem_cons_of_mem d)

/-- A character of a joined text is a separator or stands in a piece. -/
theorem mem_of_mem_intercalate {sep c : Char} {pieces : List (List Char)}
    (h : c ∈ List.intercalate [sep] pieces) : c = sep ∨ ∃ piece ∈ pieces, c ∈ piece := by
  induction pieces with
  | nil => cases h
  | cons piece more ih =>
    cases more with
    | nil => exact .inr ⟨piece, List.mem_cons_self, by rwa [List.intercalate_singleton] at h⟩
    | cons next more =>
      rw [List.intercalate_cons_cons, List.append_assoc, List.singleton_append] at h
      rcases List.mem_append.mp h with first | other
      · exact .inr ⟨piece, List.mem_cons_self, first⟩
      · rcases List.mem_cons.mp other with same | other
        · exact .inl same
        · exact (ih other).imp_right fun ⟨piece, mem, h⟩ => ⟨piece, List.mem_cons_of_mem _ mem, h⟩

theorem intercalate_append {sep : Char} {a b : List (List Char)} (ha : a ≠ []) (hb : b ≠ []) :
    List.intercalate [sep] (a ++ b) =
      List.intercalate [sep] a ++ sep :: List.intercalate [sep] b := by
  induction a with
  | nil => exact absurd rfl ha
  | cons piece more ih =>
    cases more with
    | nil =>
      rw [List.singleton_append, List.intercalate_cons_of_ne_nil hb, List.intercalate_singleton,
        List.append_assoc, List.singleton_append]
    | cons next more =>
      rw [List.cons_append, List.cons_append, List.intercalate_cons_cons, ← List.cons_append,
        ih (List.cons_ne_nil _ _), List.intercalate_cons_cons, List.append_assoc _ _ (sep :: _)]

/-! ### Lines

A line ends with a line feed, and a carriage return in front of the line feed belongs to the end as
well. What stands behind the last line feed is a line unless it is empty.
-/

def dropReturn (line : List Char) : List Char :=
  if line.getLast? = some '\r' then line.dropLast else line

/-- The lines among the pieces between line feeds. -/
def linesOfPieces : List (List Char) → List (List Char)
  | [] => []
  | [last] => if last.isEmpty then [] else [last]
  | piece :: rest => dropReturn piece :: linesOfPieces rest

def lines (s : List Char) : List (List Char) := linesOfPieces (split '\n' s)

/-! ### Leading texts

`strip?` takes a text off the front of another one, and to start with a text is to have a rest behind
it.
-/

/-- What follows `lead` in `s`, if `s` starts with it. -/
def strip? : (lead s : List Char) → Option (List Char)
  | [], s => some s
  | _ :: _, [] => none
  | a :: lead, c :: s => if a = c then strip? lead s else none

theorem strip?_eq_some_iff {lead s rest : List Char} :
    strip? lead s = some rest ↔ s = lead ++ rest := by
  induction lead generalizing s with
  | nil => simp [strip?]
  | cons a lead ih => cases s <;> simp [strip?, ih]; grind

theorem strip?_append (lead rest : List Char) : strip? lead (lead ++ rest) = some rest :=
  strip?_eq_some_iff.2 rfl

def startsWith (lead s : List Char) : Bool := (strip? lead s).isSome

/-! ### The last separator

The directory of a path is what stands before its last slash. The separator is looked for from the end
of the text.
-/

/-- The text before the last separator, if there is one. -/
def beforeLast? (sep : Char) (s : List Char) : Option (List Char) :=
  match s.reverse.dropWhile (· ≠ sep) with
  | [] => none
  | _ :: before => some before.reverse

theorem beforeLast?_of_not_mem {sep : Char} {s : List Char} (h : sep ∉ s) :
    beforeLast? sep s = none := by
  have all : (s.reverse ++ []).dropWhile (· ≠ sep) = [] := by
    apply List.dropWhile_append_of_pos
    intro c mem
    exact decide_eq_true fun same => h (same ▸ List.mem_reverse.mp mem)
  rw [List.append_nil] at all
  rw [beforeLast?, all]

theorem beforeLast?_append_cons {sep : Char} {before last : List Char} (h : sep ∉ last) :
    beforeLast? sep (before ++ sep :: last) = some before := by
  have found : (before ++ sep :: last).reverse.dropWhile (· ≠ sep) = sep :: before.reverse := by
    rw [List.reverse_append, List.reverse_cons, List.append_assoc, List.dropWhile_append_of_pos]
    · simp
    · intro c mem
      exact decide_eq_true fun same => h (same ▸ List.mem_reverse.mp mem)
  rw [beforeLast?, found]
  exact congrArg some (List.reverse_reverse before)

/-- Behind the text before the last separator comes the separator. -/
theorem exists_of_beforeLast? {sep : Char} {s before : List Char}
    (h : beforeLast? sep s = some before) : ∃ last, s = before ++ sep :: last := by
  have whole := s.reverse.takeWhile_append_dropWhile (p := (· ≠ sep))
  have stop := s.reverse.head?_dropWhile_not (· ≠ sep)
  unfold beforeLast? at h
  split at h
  · cases h
  · next c rest found =>
    cases h
    rw [found] at whole stop
    have same : c = sep := by simpa using stop
    have reversed := congrArg List.reverse whole
    rw [List.reverse_reverse, same, List.reverse_append, List.reverse_cons, List.append_assoc,
      List.singleton_append] at reversed
    exact ⟨_, reversed.symm⟩

/-! ### Occurrences

Both functions try every place of a text in turn, from the left, with `strip?`.
-/

def occursIn (part : List Char) : List Char → Bool
  | [] => part.isEmpty
  | c :: rest => startsWith part (c :: rest) || occursIn part rest

/-- Replaces every occurrence of `part`, leftmost first and without overlap, by `value`. The text
put in is not looked at again. An empty `part` is never found. -/
def replaceAll (part value : List Char) (s : List Char) : List Char :=
  match part, s with
  | _, [] => []
  | [], s => s
  | first :: more, c :: rest =>
    match _found : strip? (first :: more) (c :: rest) with
    | some after => value ++ replaceAll (first :: more) value after
    | none => c :: replaceAll (first :: more) value rest
termination_by s.length
decreasing_by
  · have := congrArg List.length (strip?_eq_some_iff.1 _found)
    simp at this ⊢
    omega
  · simp

end ImportBoundary.Text
