import ImportBoundary.Decimal.Shortest
import ImportBoundary.Json.Basic
import ImportBoundary.Text.Basic

/-!
# Writing JSON

`Json.compact` writes a value on one line, `Json.pretty` with two blanks of indentation per level.
Both write every character as it is, except for the quote, the backslash and the control characters.
-/

namespace ImportBoundary.Json

def escapeChar (c : Char) : List Char :=
  match c with
  | '"' => ['\\', '"']
  | '\\' => ['\\', '\\']
  | '\x08' => ['\\', 'b']
  | '\t' => ['\\', 't']
  | '\n' => ['\\', 'n']
  | '\x0c' => ['\\', 'f']
  | '\r' => ['\\', 'r']
  | c =>
    if c.toNat < 0x20 then
      ['\\', 'u', '0', '0', Text.Hex.digit (c.toNat / 16), Text.Hex.digit (c.toNat % 16)]
    else [c]

def quote (s : List Char) : List Char := '"' :: s.flatMap escapeChar ++ ['"']

def natChars (n : Nat) : List Char := Nat.toDigits 10 n

def intChars : Int → List Char
  | .ofNat n => natChars n
  | .negSucc n => '-' :: natChars (n + 1)

namespace Number

/-- Exponents of the first digit that are written positionally, from this one on … -/
def positionalFrom : Int := -5

/-- … and below this one. -/
def positionalBelow : Int := 16

/-- An exponent has a sign and at least two digits. -/
def exponentChars (e : Int) : List Char :=
  let digits := natChars e.natAbs
  ['e', if e < 0 then '-' else '+'] ++ List.replicate (2 - digits.length) '0' ++ digits

/-- The shortest text of a magnitude. A whole number keeps one zero behind the point. -/
def magnitudeChars (magnitude : Nat) : List Char :=
  let s := Binary64.shortest magnitude
  let digits := natChars s.digits
  let lead : Int := (digits.length : Int) - 1 + s.exponent
  if magnitude = 0 then ['0', '.', '0']
  -- With the point at its place: behind all digits, among them, or before them.
  else if positionalFrom ≤ lead ∧ lead < positionalBelow then
    if 0 ≤ s.exponent then digits ++ List.replicate s.exponent.toNat '0' ++ ['.', '0']
    else if 0 ≤ lead then
      digits.take (lead.toNat + 1) ++ '.' :: digits.drop (lead.toNat + 1)
    else ['0', '.'] ++ List.replicate (-lead - 1).toNat '0' ++ digits
  else
    match digits with
    | [] => []
    | [first] => first :: exponentChars lead
    | first :: more => first :: '.' :: more ++ exponentChars lead

def chars : Number → List Char
  | integer i => intChars i
  | double d => (if d.negative then ['-'] else []) ++ magnitudeChars d.magnitude

end Number

/-! ### One line

Values are written member by member with the separators between them, and none behind the last one.
-/

mutual

/-- A value on one line. -/
def compactChars : Json → List Char
  | .null => ['n', 'u', 'l', 'l']
  | .bool true => ['t', 'r', 'u', 'e']
  | .bool false => ['f', 'a', 'l', 's', 'e']
  | .number n => n.chars
  | .string s => quote s.toList
  | .array items => '[' :: compactItems items ++ [']']
  | .object members => '{' :: compactMembers members ++ ['}']

def compactItems : List Json → List Char
  | [] => []
  | [item] => compactChars item
  | item :: rest => compactChars item ++ ',' :: compactItems rest

def compactMembers : List (String × Json) → List Char
  | [] => []
  | [(name, value)] => quote name.toList ++ ':' :: compactChars value
  | (name, value) :: rest =>
    quote name.toList ++ ':' :: compactChars value ++ ',' :: compactMembers rest

end

def compact (v : Json) : String := String.ofList (compactChars v)

/-! ### Indented

An array or an object without items stays on one line. Any other one has each item on a line of its
own.
-/

def newLine (level : Nat) : List Char := '\n' :: List.replicate (2 * level) ' '

mutual

/-- A value whose lines after the first are indented by `level`. -/
def prettyChars (level : Nat) : Json → List Char
  | .null => ['n', 'u', 'l', 'l']
  | .bool true => ['t', 'r', 'u', 'e']
  | .bool false => ['f', 'a', 'l', 's', 'e']
  | .number n => n.chars
  | .string s => quote s.toList
  | .array [] => ['[', ']']
  | .array items => '[' :: prettyItems (level + 1) items ++ newLine level ++ [']']
  | .object [] => ['{', '}']
  | .object members => '{' :: prettyMembers (level + 1) members ++ newLine level ++ ['}']

def prettyItems (level : Nat) : List Json → List Char
  | [] => []
  | [item] => newLine level ++ prettyChars level item
  | item :: rest => newLine level ++ prettyChars level item ++ ',' :: prettyItems level rest

def prettyMembers (level : Nat) : List (String × Json) → List Char
  | [] => []
  | [(name, value)] => newLine level ++ quote name.toList ++ [':', ' '] ++ prettyChars level value
  | (name, value) :: rest =>
    newLine level ++ quote name.toList ++ [':', ' '] ++ prettyChars level value ++
      ',' :: prettyMembers level rest

end

/-- A value with two blanks of indentation per level. -/
def pretty (v : Json) : String := String.ofList (prettyChars 0 v)

end ImportBoundary.Json
