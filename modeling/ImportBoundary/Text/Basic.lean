/-!
# Characters of texts

What the rest of the library has to know about characters: which of them are white space, in which
order they stand, and which numbers digits spell.

White space is every character with the property White_Space, which are more than the blanks of ASCII.
Texts are ordered by the code points of their characters; because the UTF-8 form of a character is
ordered as its code point is, this is also the order of the bytes of the texts.

Times and dates are written with a fixed number of decimal digits: `padded` writes such a number and
`readDigits?` reads it. Hexadecimal digits are written in lower case and read in either case, and
`Hex.value?_digit` states that what is written is read back.
-/

namespace ImportBoundary.Text

/-! ### White space -/

def isBlank (c : Char) : Bool :=
  let n := c.toNat
  (0x9 ≤ n && n ≤ 0xD) || n = 0x20 || n = 0x85 || n = 0xA0 || n = 0x1680 ||
    (0x2000 ≤ n && n ≤ 0x200A) || n = 0x2028 || n = 0x2029 || n = 0x202F || n = 0x205F || n = 0x3000

def allBlank (s : String) : Bool := s.toList.all isBlank

/-! ### Order -/

/-- Compares two texts code point by code point. -/
def compareChars : List Char → List Char → Ordering
  | [], [] => .eq
  | [], _ :: _ => .lt
  | _ :: _, [] => .gt
  | a :: s, b :: t => (compare a.toNat b.toNat).then (compareChars s t)

def order (a b : String) : Ordering := compareChars a.toList b.toList

/-! ### Decimal digits -/

def digitValue (c : Char) : Nat := c.toNat - '0'.toNat

theorem digitValue_digitChar {d : Nat} (h : d < 10) : digitValue (Nat.digitChar d) = d := by
  rw [digitValue, Nat.toNat_digitChar_of_lt_ten h]
  simp

/-- The last `width` digits of a number, with zeros in front. -/
def padded : (width n : Nat) → List Char
  | 0, _ => []
  | width + 1, n => padded width (n / 10) ++ [Nat.digitChar (n % 10)]

/-- Reads `width` digits behind those of the number `n`. -/
def readDigitsFrom? : (width n : Nat) → List Char → Option (Nat × List Char)
  | 0, n, s => some (n, s)
  | _ + 1, _, [] => none
  | width + 1, n, c :: s =>
    if c.isDigit then readDigitsFrom? width (n * 10 + digitValue c) s else none

def readDigits? (width : Nat) (s : List Char) : Option (Nat × List Char) := readDigitsFrom? width 0 s

/-- Reads a certain character. -/
def expect? (c : Char) : List Char → Option (List Char)
  | d :: rest => if d = c then some rest else none
  | [] => none

/-! ### Hexadecimal digits -/

namespace Hex

def digit (n : Nat) : Char :=
  if n < 10 then Char.ofNat ('0'.toNat + n) else Char.ofNat ('a'.toNat + (n - 10))

def value? (c : Char) : Option Nat :=
  if '0' ≤ c ∧ c ≤ '9' then some (c.toNat - '0'.toNat)
  else if 'a' ≤ c ∧ c ≤ 'f' then some (c.toNat - 'a'.toNat + 10)
  else if 'A' ≤ c ∧ c ≤ 'F' then some (c.toNat - 'A'.toNat + 10)
  else none

theorem value?_digit : ∀ n < 16, value? (digit n) = some n := by decide

def number? (digits : List Char) : Option Nat := do
  return (← digits.mapM value?).foldl (fun n d => n * 16 + d) 0

/-- The character whose code point digits spell. Half of a surrogate pair is no character. -/
def char? (digits : List Char) : Option Char := do
  let code ← number? digits
  if code < 0xD800 ∨ (0xDFFF < code ∧ code ≤ 0x10FFFF) then some (Char.ofNat code) else none

end Hex

end ImportBoundary.Text
