import ImportBoundary.Path.Basic

/-!
# Containment of paths

A text is under a directory when it starts with the directory's text and either ends there or goes
on with a slash (`isUnder_iff`). Read this way, containment orders texts like a tree: it is
transitive, and of two directories that hold one path the one is under the other
(`isUnder_or_isUnder`). The second fact is what makes modules that are apart hold disjoint sets of
files.

Nothing here depends on canonical texts. The test is used on the text of an import as well as on paths,
and its laws hold for any texts.
-/

namespace ImportBoundary.Path

/-- What may stand behind the text of a directory in the text of a path under it. -/
def Continues (tail : List Char) : Prop := ∀ c ∈ tail.head?, c = '/'

theorem continues_nil : Continues [] := by
  simp [Continues]

theorem continues_cons {c : Char} {tail : List Char} : Continues (c :: tail) ↔ c = '/' := by
  simp [Continues]

/-- The beginning of a continuation is a continuation. -/
theorem Continues.of_append {a b : List Char} (h : Continues (a ++ b)) : Continues a := by
  cases a with
  | nil => exact continues_nil
  | cons c a =>
      rw [List.cons_append, continues_cons] at h
      exact continues_cons.mpr h

/-- Two continuations one after the other are a continuation. -/
theorem Continues.append {a b : List Char} (ha : Continues a) (hb : Continues b) :
    Continues (a ++ b) := by
  cases a with
  | nil => exact hb
  | cons c a =>
      rw [List.cons_append, continues_cons]
      exact continues_cons.mp ha

theorem isUnderChars_iff {path dir : List Char} :
    isUnderChars path dir ↔ ∃ tail, path = dir ++ tail ∧ Continues tail := by
  unfold isUnderChars
  constructor
  · intro h
    split at h
    · cases h
    · next found => exact ⟨[], Text.strip?_eq_some_iff.mp found, continues_nil⟩
    · next c rest found =>
        exact ⟨c :: rest, Text.strip?_eq_some_iff.mp found, continues_cons.mpr (by simpa using h)⟩
  · rintro ⟨tail, rfl, goes⟩
    rw [Text.strip?_append]
    cases tail with
    | nil => rfl
    | cons c rest => simpa using continues_cons.mp goes

/-- A text is under a directory when it is the directory's text with a continuation. -/
theorem isUnder_iff {path dir : String} :
    isUnder path dir ↔ ∃ tail, path.toList = dir.toList ++ tail ∧ Continues tail :=
  isUnderChars_iff

/-- What is under a directory is under the directories that one is under. -/
theorem isUnder_trans {a b c : String} (hab : isUnder a b) (hbc : isUnder b c) : isUnder a c := by
  obtain ⟨s, hs, goes_s⟩ := isUnder_iff.mp hab
  obtain ⟨t, ht, goes_t⟩ := isUnder_iff.mp hbc
  refine isUnder_iff.mpr ⟨t ++ s, ?_, goes_t.append goes_s⟩
  rw [hs, ht, List.append_assoc]

/-- Of two directories that hold one path, the one is under the other. -/
theorem isUnder_or_isUnder {path a b : String} (ha : isUnder path a) (hb : isUnder path b) :
    isUnder a b ∨ isUnder b a := by
  obtain ⟨s, hs, goes_s⟩ := isUnder_iff.mp ha
  obtain ⟨t, ht, goes_t⟩ := isUnder_iff.mp hb
  -- The shorter of the two texts begins the longer one, and the rest of the longer one begins a
  -- continuation of the shorter one.
  rcases List.append_eq_append_iff.mp (hs.symm.trans ht) with ⟨gap, hgap, rfl⟩ | ⟨gap, hgap, rfl⟩
  · exact Or.inr (isUnder_iff.mpr ⟨gap, hgap, goes_s.of_append⟩)
  · exact Or.inl (isUnder_iff.mpr ⟨gap, hgap, goes_t.of_append⟩)

end ImportBoundary.Path
