import ImportBoundary.Json.Numeral
import ImportBoundary.Json.Printer
import ImportBoundary.Text.Basic

/-!
# Reading integers back

An integer is written as its digits, and they spell it (`ofDigits_digits`). Behind it stands something
that does not continue a number (`Separated`), so a reader takes all its digits and nothing else, and
it has the same integer as long as it fits 64 bits (`read?_intChars`, `value?_ofInt`).
-/

namespace ImportBoundary.Json

/-- What stands behind a value on indented lines: nothing, a comma or a line end. -/
def Separated (rest : List Char) : Prop := ∀ c ∈ rest.head?, c = ',' ∨ c = '\n'

theorem separated_nil : Separated [] := by
  simp [Separated]

theorem separated_comma (rest : List Char) : Separated (',' :: rest) := by
  simp [Separated]

theorem separated_newLine (level : Nat) (rest : List Char) : Separated (newLine level ++ rest) := by
  simp [Separated, newLine]

namespace Numeral

/-! ## Digits

The digits of a number are those of its tenth and one more, so everything about them goes by strong
induction on the number.
-/

/-- A digit has the value that it has in a number of fixed width. -/
theorem digitValue_eq : digitValue = Text.digitValue := rfl

/-- The values of the digits of a number. -/
def digits (n : Nat) : List Nat := (natChars n).map digitValue

theorem digits_of_lt {n : Nat} (h : n < 10) : digits n = [n] := by
  rw [digits, natChars, Nat.toDigits_of_lt_base h, List.map_singleton, digitValue_eq,
    Text.digitValue_digitChar h]

/-- The last digit of a number follows the digits of its tenth. -/
theorem digits_of_le {n : Nat} (h : 10 ≤ n) : digits n = digits (n / 10) ++ [n % 10] := by
  have last : n % 10 < 10 := Nat.mod_lt n (by decide)
  rw [digits, natChars, Nat.toDigits_eq_if (by decide), if_neg (by omega), List.map_append,
    List.map_singleton, digitValue_eq, Text.digitValue_digitChar last]
  rfl

/-- Digits spell the number they were made of. -/
theorem ofDigits_digits (n : Nat) : ofDigits (digits n) = n := by
  induction n using Nat.strongRecOn with
  | ind n ih =>
    by_cases h : n < 10
    · simp [digits_of_lt h, ofDigits]
    · have tenth := ih (n / 10) (by omega)
      rw [digits_of_le (by omega), ofDigits, List.foldl_append, ← ofDigits, tenth]
      simp only [List.foldl_cons, List.foldl_nil]
      omega

/-- Only zero has a leading zero. -/
theorem exists_digits_eq_cons {n : Nat} (h : 0 < n) : ∃ d ds, digits n = d :: ds ∧ d ≠ 0 := by
  induction n using Nat.strongRecOn with
  | ind n ih =>
    by_cases small : n < 10
    · exact ⟨n, [], digits_of_lt small, by omega⟩
    · obtain ⟨d, ds, tenth, lead⟩ := ih (n / 10) (by omega) (by omega)
      exact ⟨d, ds ++ [n % 10], by rw [digits_of_le (by omega), tenth, List.cons_append], lead⟩

theorem isDigit_of_mem_natChars {n : Nat} {c : Char} (h : c ∈ natChars n) : c.isDigit :=
  Nat.isDigit_of_mem_toDigits (by decide) (by decide) h

/-- A number begins with a digit. -/
theorem exists_natChars_eq_cons (n : Nat) : ∃ c cs, natChars n = c :: cs ∧ c.isDigit := by
  obtain ⟨c, cs, cons⟩ := List.exists_cons_of_ne_nil (Nat.toDigits_ne_nil (b := 10) (n := n))
  exact ⟨c, cs, cons, isDigit_of_mem_natChars (cons ▸ List.mem_cons_self)⟩

/-! ## Numerals

The reader goes through sign, whole digits, fraction and exponent. Behind the digits of an integer
neither a point nor a letter stands, so the last two find nothing.
-/

variable {rest : List Char}

/-- All digits of a number are taken, and nothing behind it. -/
theorem takeDigits_natChars (n : Nat) (sep : Separated rest) :
    takeDigits (natChars n ++ rest) = (digits n, rest) := by
  have stops : ∀ c ∈ rest.head?, c.isDigit = false := by
    intro c mem
    rcases sep c mem with rfl | rfl <;> rfl
  have all : ∀ c ∈ natChars n, c.isDigit := fun c mem => isDigit_of_mem_natChars mem
  rw [takeDigits, List.takeWhile_append_of_pos all, List.dropWhile_append_of_pos all]
  cases rest with
  | nil => simp [digits]
  | cons c rest =>
    have stop := stops c rfl
    simp [digits, stop]

theorem readWhole?_natChars (n : Nat) (sep : Separated rest) :
    readWhole? (natChars n ++ rest) = some (digits n, rest) := by
  unfold readWhole?
  rw [takeDigits_natChars n sep]
  rcases Nat.eq_zero_or_pos n with rfl | positive
  · rw [digits_of_lt (by decide)]
    rfl
  · obtain ⟨d, ds, cons, lead⟩ := exists_digits_eq_cons positive
    rw [cons]
    split
    · next same => cases same
    · next same =>
      cases same
      exact absurd rfl lead
    · next same =>
      cases same
      rfl

theorem readFraction?_of_separated (sep : Separated rest) :
    readFraction? rest = some (none, rest) := by
  unfold readFraction?
  split
  · next rest =>
    have := sep '.' rfl
    simp at this
  · rfl

theorem readExponent?_of_separated (sep : Separated rest) :
    readExponent? rest = some (none, rest) := by
  cases rest with
  | nil => rfl
  | cons c rest =>
    unfold readExponent?
    have other : ¬ (c = 'e' ∨ c = 'E') := by
      rcases sep c rfl with rfl | rfl <;> decide
    simp [other]

def ofInt (i : Int) : Numeral := ⟨i < 0, digits i.natAbs, none, none⟩

theorem readUnsigned?_natChars (negative : Bool) (n : Nat) (sep : Separated rest) :
    readUnsigned? negative (natChars n ++ rest) = some (⟨negative, digits n, none, none⟩, rest) := by
  unfold readUnsigned?
  rw [readWhole?_natChars n sep]
  simp [readFraction?_of_separated sep, readExponent?_of_separated sep]

/-- An integer is read as its numeral. -/
theorem read?_intChars (i : Int) (sep : Separated rest) :
    read? (intChars i ++ rest) = some (ofInt i, rest) := by
  cases i with
  | ofNat n =>
    have unsigned := readUnsigned?_natChars false n sep
    rw [intChars, read?]
    · simp [unsigned, ofInt]
    · -- The first digit is no minus sign.
      intro after minus
      obtain ⟨c, cs, cons, digit⟩ := exists_natChars_eq_cons n
      rw [cons] at minus
      cases minus
      cases digit
  | negSucc n =>
    have unsigned := readUnsigned?_natChars true (n + 1) sep
    rw [intChars, List.cons_append, read?, unsigned]
    simp [ofInt, Int.negSucc_lt_zero]

def Fits (i : Int) : Prop := -0x8000000000000000 ≤ i ∧ i ≤ maxSignificand

/-- An integer that fits 64 bits is the value of its numeral. -/
theorem value?_ofInt {i : Int} (h : Fits i) : (ofInt i).value? = some (.integer i) := by
  obtain ⟨lower, upper⟩ := h
  have integer : (ofInt i).integer? = some i := by
    simp only [integer?, ofInt, ofDigits_digits, decide_eq_true_eq]
    by_cases negative : i < 0
    · rw [if_pos negative, if_pos (by omega), Option.some.injEq]
      omega
    · rw [if_neg negative, if_pos (by omega), Option.some.injEq]
      omega
  rw [value?, integer]

end Numeral

end ImportBoundary.Json
