import ImportBoundary.Text.Split

/-!
# Replacing a text in another one

`replaceAll` goes from left to right and does not look at what it has put in. Where a text does not
occur, nothing is replaced (`replaceAll_append_of_occurrences`), and a character that is not in the
text is a border which no occurrence crosses (`replaceAll_append_cons`).
-/

namespace ImportBoundary.Text

variable {part lead value s w a b : List Char} {c : Char}

theorem startsWith_iff : startsWith lead s ↔ lead <+: s := by
  rw [startsWith, Option.isSome_iff_exists]
  constructor
  · rintro ⟨rest, found⟩
    exact ⟨rest, (strip?_eq_some_iff.mp found).symm⟩
  · rintro ⟨rest, split⟩
    exact ⟨rest, strip?_eq_some_iff.mpr split.symm⟩

theorem strip?_eq_none_iff : strip? lead s = none ↔ ¬ startsWith lead s := by
  simp [startsWith]

@[simp] theorem replaceAll_nil : replaceAll part value [] = [] := by
  rw [replaceAll]

theorem replaceAll_append (ne : part ≠ []) :
    replaceAll part value (part ++ s) = value ++ replaceAll part value s := by
  obtain ⟨first, more, rfl⟩ := List.exists_cons_of_ne_nil ne
  rw [List.cons_append, replaceAll]
  split
  · next after found =>
    rw [← List.cons_append, strip?_append] at found
    rw [Option.some.inj found]
  · next missing =>
    rw [← List.cons_append, strip?_append] at missing
    cases missing

theorem replaceAll_cons (missing : ¬ startsWith part (c :: s)) :
    replaceAll part value (c :: s) = c :: replaceAll part value s := by
  cases part with
  | nil => exact absurd rfl missing
  | cons first more =>
      rw [replaceAll]
      split
      · next after found =>
        rw [startsWith, found] at missing
        exact absurd rfl missing
      · rfl

/-- One character is replaced wherever it stands, so every character can be looked at by itself. -/
theorem replaceAll_singleton :
    replaceAll [c] value s = s.flatMap fun d => if d = c then value else [d] := by
  induction s with
  | nil => exact replaceAll_nil
  | cons d s ih =>
    rw [List.flatMap_cons, ← ih]
    by_cases same : d = c
    · subst same
      rw [if_pos rfl]
      exact replaceAll_append (List.cons_ne_nil d [])
    · have other : ¬ startsWith [c] (d :: s) := by
        rw [startsWith_iff, List.cons_prefix_cons]
        exact fun begins => same begins.1.symm
      rw [if_neg same, replaceAll_cons other, List.singleton_append]

/-! ## Occurrences

Occurrences are counted at every place of a text, also where two of them overlap. The tokens of
templates never do, and a text without occurrences is left alone by replacing in any case.
-/

/-- The number of places at which a text that is not empty occurs. -/
def occurrences (part : List Char) : List Char → Nat
  | [] => 0
  | c :: rest => (if startsWith part (c :: rest) then 1 else 0) + occurrences part rest

theorem occurrences_le_append (w : List Char) : occurrences part s ≤ occurrences part (w ++ s) := by
  induction w with
  | nil => exact Nat.le_refl _
  | cons c w ih =>
      rw [List.cons_append, occurrences]
      omega

/-- A beginning in which no occurrence begins is left alone. -/
theorem replaceAll_append_of_occurrences (same : occurrences part (w ++ s) = occurrences part s) :
    replaceAll part value (w ++ s) = w ++ replaceAll part value s := by
  induction w with
  | nil => rfl
  | cons c w ih =>
      rw [List.cons_append, occurrences] at same
      have rest : occurrences part s ≤ occurrences part (w ++ s) := occurrences_le_append w
      by_cases begins : startsWith part (c :: (w ++ s))
      · rw [if_pos begins] at same
        omega
      · rw [if_neg begins, Nat.zero_add] at same
        rw [List.cons_append, replaceAll_cons begins, ih same, List.cons_append]

theorem replaceAll_of_occurrences_eq_zero (none : occurrences part s = 0) :
    replaceAll part value s = s := by
  have same : occurrences part (s ++ []) = occurrences part [] := by rw [List.append_nil, none]; rfl
  have whole : replaceAll part value (s ++ []) = s ++ replaceAll part value [] :=
    replaceAll_append_of_occurrences same
  rw [List.append_nil, replaceAll_nil, List.append_nil] at whole
  exact whole

/-- No occurrence begins where its first character is missing. -/
theorem occurrences_append_of_not_mem {first : Char} {more : List Char} (missing : first ∉ w) :
    occurrences (first :: more) (w ++ s) = occurrences (first :: more) s := by
  induction w with
  | nil => rfl
  | cons c w ih =>
      rw [List.mem_cons, not_or] at missing
      have other : ¬ startsWith (first :: more) (c :: (w ++ s)) := by
        rw [startsWith_iff, List.cons_prefix_cons]
        exact fun begins => missing.1 begins.1
      rw [List.cons_append, occurrences, if_neg other, Nat.zero_add, ih missing.2]

/-! ## Borders

A character that is not in the part which is looked for can be in no occurrence. The texts on its two
sides are replaced each by itself.
-/

theorem strip?_append_cons (border : c ∉ lead) :
    strip? lead (a ++ c :: b) = (strip? lead a).map (· ++ c :: b) := by
  induction lead generalizing a with
  | nil => rfl
  | cons first lead ih =>
      rw [List.mem_cons, not_or] at border
      cases a with
      | nil => exact if_neg (Ne.symm border.1)
      | cons d a =>
          rw [List.cons_append, strip?, strip?]
          by_cases same : first = d
          · rw [if_pos same, if_pos same, ih border.2]
          · rw [if_neg same, if_neg same]
            rfl

/-- What stands on one side of a border does not matter on the other. -/
theorem replaceAll_append_cons (ne : part ≠ []) (border : c ∉ part) :
    replaceAll part value (a ++ c :: b) =
      replaceAll part value a ++ c :: replaceAll part value b := by
  induction h : a.length using Nat.strongRecOn generalizing a with
  | ind n ih =>
      subst h
      have whole := strip?_append_cons (a := a) (b := b) border
      -- What is replaced at the beginning ends before the border, so the same is replaced with what
      -- follows the border and without it.
      cases found : strip? part a with
      | some after =>
          obtain rfl := strip?_eq_some_iff.mp found
          have shorter : after.length < (part ++ after).length := by
            have := List.length_pos_iff.mpr ne
            rw [List.length_append]
            omega
          rw [List.append_assoc, replaceAll_append ne, replaceAll_append ne, ih _ shorter rfl,
            List.append_assoc]
      | none =>
          rw [found, Option.map_none, strip?_eq_none_iff] at whole
          rw [strip?_eq_none_iff] at found
          cases a with
          | nil =>
              rw [replaceAll_nil]
              exact replaceAll_cons whole
          | cons d a =>
              have shorter : a.length < (d :: a).length := Nat.lt_succ_self _
              rw [List.cons_append] at whole
              rw [List.cons_append, replaceAll_cons whole, replaceAll_cons found, ih _ shorter rfl,
                List.cons_append]

end ImportBoundary.Text
