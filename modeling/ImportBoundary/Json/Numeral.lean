import ImportBoundary.Json.Basic

/-!
# Numbers of a JSON document

A numeral is the number as it is written. `Numeral.value?` gives its value: an integer that fits 64
bits stays one, and everything else is read as a double in steps. The digits are gathered into a
significand of 64 bits; a digit that no longer fits is dropped, and the power of ten that is left
over is applied with one rounded multiplication or division.
-/

namespace ImportBoundary.Json

/-- A number as written. -/
structure Numeral where
  negative : Bool
  /-- The digits before the point. -/
  whole : List Nat
  /-- The digits after the point, if there is one. -/
  fraction : Option (List Nat)
  /-- Whether the exponent is negative, and its digits. -/
  exponent : Option (Bool × List Nat)
deriving DecidableEq, Repr

namespace Numeral

def digitValue (c : Char) : Nat := c.toNat - '0'.toNat

/-- Splits the leading digits off a text. -/
def takeDigits (s : List Char) : List Nat × List Char :=
  ((s.takeWhile Char.isDigit).map digitValue, s.dropWhile Char.isDigit)

theorem length_takeDigits (s : List Char) :
    (takeDigits s).1.length + (takeDigits s).2.length = s.length := by
  simp only [takeDigits, List.length_map, ← List.length_append, List.takeWhile_append_dropWhile]

/-- Reads the fraction that may follow the whole digits. A point needs a digit behind it. -/
def readFraction? : List Char → Option (Option (List Nat) × List Char)
  | '.' :: rest =>
    match takeDigits rest with
    | ([], _) => none
    | (digits, rest) => some (some digits, rest)
  | s => some (none, s)

def readExponentDigits? (negative : Bool) (s : List Char) :
    Option (Option (Bool × List Nat) × List Char) :=
  match takeDigits s with
  | ([], _) => none
  | (digits, rest) => some (some (negative, digits), rest)

def readExponent? : List Char → Option (Option (Bool × List Nat) × List Char)
  | c :: rest =>
    if c = 'e' ∨ c = 'E' then
      match rest with
      | '+' :: rest => readExponentDigits? false rest
      | '-' :: rest => readExponentDigits? true rest
      | rest => readExponentDigits? false rest
    else some (none, c :: rest)
  | [] => some (none, [])

/-- Reads the digits before the point: a zero alone, or digits that do not start with a zero. -/
def readWhole? (s : List Char) : Option (List Nat × List Char) :=
  match takeDigits s with
  | ([], _) => none
  | (0 :: _ :: _, _) => none
  | (digits, rest) => some (digits, rest)

def readUnsigned? (negative : Bool) (s : List Char) : Option (Numeral × List Char) := do
  let (whole, s) ← readWhole? s
  let (fraction, s) ← readFraction? s
  let (exponent, s) ← readExponent? s
  return (⟨negative, whole, fraction, exponent⟩, s)

def read? : List Char → Option (Numeral × List Char)
  | '-' :: rest => readUnsigned? true rest
  | s => readUnsigned? false s

/-! ### Every part that is read leaves a shorter text

The readers are recursive on the text that is left, through the tokens of a document. These lemmas let
them stop: digits are taken off the front, and at least one digit is taken.
-/

theorem length_le_of_readFraction? {s rest : List Char} {f : Option (List Nat)}
    (h : readFraction? s = some (f, rest)) : rest.length ≤ s.length := by
  unfold readFraction? at h
  split at h
  · next after =>
    have := length_takeDigits after
    split at h
    · simp at h
    · simp_all
      omega
  · simp_all

theorem length_le_of_readExponentDigits? {negative : Bool} {s rest : List Char}
    {e : Option (Bool × List Nat)} (h : readExponentDigits? negative s = some (e, rest)) :
    rest.length ≤ s.length := by
  unfold readExponentDigits? at h
  have := length_takeDigits s
  split at h
  · simp at h
  · simp_all
    omega

theorem length_le_of_readExponent? {s rest : List Char} {e : Option (Bool × List Nat)}
    (h : readExponent? s = some (e, rest)) : rest.length ≤ s.length := by
  unfold readExponent? at h
  split at h
  · split at h
    · split at h <;> have := length_le_of_readExponentDigits? h <;> simp_all <;> omega
    · simp_all
  · simp_all

theorem length_lt_of_readWhole? {s rest : List Char} {digits : List Nat}
    (h : readWhole? s = some (digits, rest)) : rest.length < s.length := by
  unfold readWhole? at h
  have total := length_takeDigits s
  split at h
  · simp at h
  · simp at h
  · next d r nonempty _ read =>
    simp only [Option.some.injEq, Prod.mk.injEq] at h
    obtain ⟨rfl, rfl⟩ := h
    rw [read] at total
    cases d with
    | nil => simp_all
    | cons => simp at total; omega

theorem length_lt_of_readUnsigned? {negative : Bool} {s rest : List Char} {n : Numeral}
    (h : readUnsigned? negative s = some (n, rest)) : rest.length < s.length := by
  simp only [readUnsigned?, Option.bind_eq_bind, Option.bind_eq_some_iff] at h
  obtain ⟨⟨_, _⟩, whole, ⟨_, _⟩, fraction, ⟨_, _⟩, exponent, h⟩ := h
  have := length_lt_of_readWhole? whole
  have := length_le_of_readFraction? fraction
  have := length_le_of_readExponent? exponent
  simp_all
  omega

theorem length_lt_of_read? {s rest : List Char} {n : Numeral} (h : read? s = some (n, rest)) :
    rest.length < s.length := by
  unfold read? at h
  split at h
  · have := length_lt_of_readUnsigned? h
    simp
    omega
  · exact length_lt_of_readUnsigned? h

/-! ### The value of a numeral

The steps are those of a reader that keeps the significand in a machine word, and their rounding shows
in the last places of long numbers. Digits beyond the word are dropped rather than rounded, and the
power of ten is applied to a significand which is rounded already.
-/

def maxSignificand : Nat := UInt64.size - 1

/-- Adds the digits before the point to a significand, and counts those dropped: the first one that
does not fit and all that follow it. -/
def gatherWhole (significand : Nat) : List Nat → Nat × Nat
  | [] => (significand, 0)
  | d :: rest =>
    if significand * 10 + d ≤ maxSignificand then gatherWhole (significand * 10 + d) rest
    else (significand, rest.length + 1)

/-- Adds the digits after the point to a significand, and counts those added: all before the first
one that does not fit. -/
def gatherFraction (significand : Nat) : List Nat → Nat × Nat
  | [] => (significand, 0)
  | d :: rest =>
    if significand * 10 + d ≤ maxSignificand then
      let (total, added) := gatherFraction (significand * 10 + d) rest
      (total, added + 1)
    else (significand, 0)

def ofDigits (digits : List Nat) : Nat := digits.foldl (fun n d => n * 10 + d) 0

/-- The largest exponent that is worked out. -/
def maxExponent : Nat := 0x7FFFFFFF

/-- The magnitude of a number that is read as a double. -/
def magnitude? (n : Numeral) : Option Nat :=
  let (significand, dropped) := gatherWhole 0 n.whole
  let (significand, added) := gatherFraction significand (n.fraction.getD [])
  let start : Int := (dropped : Int) - added
  match n.exponent with
  | none => Binary64.ofDecimal? significand start
  | some (negative, digits) =>
    let exponent := ofDigits digits
    if exponent ≤ maxExponent then
      Binary64.ofDecimal? significand (if negative then start - exponent else start + exponent)
    -- The exponent is too large to be worked out: the number is zero, or beyond all doubles.
    else if significand = 0 ∨ negative then some 0
    else none

/-- Whether a numeral is a plain integer that fits 64 bits, and which one. Zero with a sign is not
an integer. -/
def integer? (n : Numeral) : Option Int :=
  match n.fraction, n.exponent with
  | none, none =>
    let value := ofDigits n.whole
    if n.negative then if 0 < value ∧ value ≤ 0x8000000000000000 then some (-(value : Int)) else none
    else if value ≤ maxSignificand then some value else none
  | _, _ => none

/-- The value of a numeral; none if it is beyond the finite doubles. -/
def value? (n : Numeral) : Option Number :=
  match n.integer? with
  | some i => some (.integer i)
  | none => n.magnitude?.map fun m => .double ⟨n.negative, m⟩

end Numeral

end ImportBoundary.Json
