import ImportBoundary.Text.Basic
import ImportBoundary.Time.Timestamp
import ImportBoundary.Toml.Basic

/-!
# Numbers, truth values and times of TOML

A value without quotes is one run of characters, and a date may be followed by a time behind one
blank. `scalar?` recognises what such a text stands for.
-/

namespace ImportBoundary.Toml

/-- The value of a digit up to `f`. -/
def digitValue (c : Char) : Nat :=
  if c.isDigit then c.toNat - '0'.toNat
  else if c.isLower then c.toNat - 'a'.toNat + 10
  else c.toNat - 'A'.toNat + 10

/-- The digits of a text in which single underscores may stand between digits. -/
def digits? (isDigit : Char → Bool) (s : List Char) : Option (List Char) :=
  match s with
  | [] => none
  | [c] => if isDigit c then some [c] else none
  | c :: '_' :: d :: rest =>
    if isDigit c then (digits? isDigit (d :: rest)).map (c :: ·) else none
  | c :: d :: rest => if isDigit c then (digits? isDigit (d :: rest)).map (c :: ·) else none

def numberOf (base : Nat) (digits : List Char) : Nat :=
  digits.foldl (fun n c => n * base + digitValue c) 0

/-- Whether decimal digits begin with a zero that is not the only one. -/
def hasLeadingZero : List Char → Bool
  | '0' :: _ :: _ => true
  | _ => false

def wholeDigits? (s : List Char) : Option (List Char) :=
  (digits? Char.isDigit s).filter fun ds => !hasLeadingZero ds

/-- Splits a sign off a text: whether it is a minus sign, and the rest. -/
def splitSign : List Char → Bool × List Char
  | '-' :: rest => (true, rest)
  | '+' :: rest => (false, rest)
  | s => (false, s)

def isHexDigit (c : Char) : Bool := c.isDigit || ('a' ≤ c && c ≤ 'f') || ('A' ≤ c && c ≤ 'F')

/-- An integer in base 16, 8 or 2, or in base 10 with a sign. -/
def integer? (s : List Char) : Option Int :=
  match s with
  | '0' :: 'x' :: rest => (digits? isHexDigit rest).map fun ds => (numberOf 16 ds : Int)
  | '0' :: 'o' :: rest =>
    (digits? (fun c => '0' ≤ c && c ≤ '7') rest).map fun ds => (numberOf 8 ds : Int)
  | '0' :: 'b' :: rest => (digits? (fun c => c = '0' || c = '1') rest).map fun ds => (numberOf 2 ds : Int)
  | s =>
    let (negative, rest) := splitSign s
    (wholeDigits? rest).map fun ds => if negative then -(numberOf 10 ds : Int) else numberOf 10 ds

/-- The integers that have a representation. -/
def integerFits (i : Int) : Bool := -((1 <<< 127 : Nat) : Int) ≤ i && i < (1 <<< 128 : Nat)

/-! ### Floats

Whether a float has a value is all that is asked of it, and a decimal has one unless it rounds to
infinity. The number of its digits decides that in all cases but one, where the digits are compared.
-/

/-- The parts of a decimal: the digits before and behind the point, and the exponent. -/
structure Decimal where
  whole : List Char
  fraction : List Char
  exponent : Int
deriving DecidableEq, Repr

def exponent? (s : List Char) : Option Int :=
  let (negative, rest) := splitSign s
  (digits? Char.isDigit rest).map fun ds => if negative then -(numberOf 10 ds : Int) else numberOf 10 ds

def isExponentMark (c : Char) : Bool := c = 'e' || c = 'E'

/-- A decimal with a point, an exponent, or both. -/
def decimal? (s : List Char) : Option Decimal := do
  let mantissa := s.takeWhile fun c => !isExponentMark c
  let exponent ← match s.dropWhile fun c => !isExponentMark c with
    | [] => some 0
    | _ :: rest => exponent? rest
  let whole ← wholeDigits? (mantissa.takeWhile (· ≠ '.'))
  match mantissa.dropWhile (· ≠ '.') with
  | [] => if mantissa.length = s.length then none else some ⟨whole, [], exponent⟩
  | _ :: rest => do
    let fraction ← digits? Char.isDigit rest
    return ⟨whole, fraction, exponent⟩

/-- The number of digits before the point in the value of a decimal, if it is not zero. A positive
number with `n` such digits is at least `10 ^ (n - 1)` and below `10 ^ n`. -/
def Decimal.places (d : Decimal) : Int :=
  let digits := d.whole ++ d.fraction
  (d.whole.length : Int) - (digits.takeWhile (· = '0')).length + d.exponent

/-- The least number that rounds to no finite double, as digits with 309 places. -/
def overflowPoint : Nat := 1 <<< 1024 - 1 <<< 970

def Decimal.isFinite (d : Decimal) : Bool :=
  let significant := (d.whole ++ d.fraction).dropWhile (· = '0')
  if significant.isEmpty || d.places < 309 then true
  else if 309 < d.places then false
  else
    let shown := significant.length
    if 309 ≤ shown then numberOf 10 significant < overflowPoint * Nat.pow 10 (shown - 309)
    else numberOf 10 significant * Nat.pow 10 (309 - shown) < overflowPoint

/-- Whether a text is a float that has a value. -/
def isFloat (s : List Char) : Bool :=
  let (_, rest) := splitSign s
  rest = ['i', 'n', 'f'] || rest = ['n', 'a', 'n'] || (decimal? rest).any Decimal.isFinite

/-! ### Dates and times

A date, a time, or both with a distance to universal time if one is given. The readers answer with what
is left of a text, since the parts themselves are not needed.
-/

def readDate? (s : List Char) : Option (List Char) := do
  let (year, s) ← Text.readDigits? 4 s
  let s ← Text.expect? '-' s
  let (month, s) ← Text.readDigits? 2 s
  let s ← Text.expect? '-' s
  let (day, s) ← Text.readDigits? 2 s
  if Calendar.isDate year month day then some s else none

def readFraction? : List Char → Option (List Char)
  | '.' :: c :: rest => if c.isDigit then some (rest.dropWhile Char.isDigit) else none
  | '.' :: [] => none
  | s => some s

/-- Reads a time. The seconds may be left out. -/
def readTime? (s : List Char) : Option (List Char) := do
  let (hour, s) ← Text.readDigits? 2 s
  let s ← Text.expect? ':' s
  let (minute, s) ← Text.readDigits? 2 s
  if 23 < hour ∨ 59 < minute then none
  match s with
  | ':' :: s => do
    let (second, s) ← Text.readDigits? 2 s
    if 60 < second then none
    readFraction? s
  | s => some s

def readOffset? : List Char → Option (List Char)
  | [] => some []
  | c :: s =>
    if c = 'Z' ∨ c = 'z' then some s
    else if c = '+' ∨ c = '-' then do
      let (hour, s) ← Text.readDigits? 2 s
      let s ← Text.expect? ':' s
      let (minute, s) ← Text.readDigits? 2 s
      if 23 < hour ∨ 59 < minute then none else some s
    else none

def isDateTime (s : List Char) : Bool :=
  match readDate? s with
  | some [] => true
  | some (c :: rest) =>
    (c = 'T' || c = 't' || c = ' ') && ((readTime? rest).bind readOffset?) == some []
  | none => readTime? s == some []

/-! ### Scalars

A text is tried as a truth value, a time, an integer and a float, in this order. An integer that is too
large is not tried as a float.
-/

def scalar? (s : List Char) : Option Value :=
  if s = ['t', 'r', 'u', 'e'] then some (.bool true)
  else if s = ['f', 'a', 'l', 's', 'e'] then some (.bool false)
  else if isDateTime s then some (.dateTime (String.ofList s))
  else match integer? s with
    | some i => if integerFits i then some (.integer i) else none
    | none => if isFloat s then some (.float (String.ofList s)) else none

def endsScalar (c : Char) : Bool :=
  [' ', '\t', '\r', '\n', '#', ',', ']', '[', '}', '{', '='].contains c

def readScalar (s : List Char) : Except Fault (Value × List Char) :=
  let first := s.takeWhile fun c => !endsScalar c
  let rest := s.dropWhile fun c => !endsScalar c
  let (text, rest) := match readDate? first, rest with
    | some [], ' ' :: c :: more =>
      -- A blank may stand between a date and its time, and then both are one value.
      if c.isDigit then
        (first ++ ' ' :: (c :: more).takeWhile fun c => !endsScalar c,
          (c :: more).dropWhile fun c => !endsScalar c)
      else (first, rest)
    | _, _ => (first, rest)
  match scalar? text with
  | some value => .ok (value, rest)
  | none => .error .invalidValue

end ImportBoundary.Toml
