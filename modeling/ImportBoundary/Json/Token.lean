import ImportBoundary.Json.Numeral
import ImportBoundary.Text.Basic
import ImportBoundary.Text.Split

/-!
# Tokens of a JSON document

`Token.scan?` cuts a text into tokens. A string is first read as UTF-16 units, one for each
escape, and its text is then put together from them (`ofUnits?`); half of a surrogate pair makes
the string unusable but not the document ill-formed.

Numbers that cannot be kept are tokens like others, for the same reason: whether anybody asks for them
is known later.
-/

namespace ImportBoundary.Json

inductive Token where
  | openArray
  | closeArray
  | openObject
  | closeObject
  | comma
  | colon
  | null
  | bool (value : Bool)
  | number (value : Option Number)
  | string (value : Option String)
deriving DecidableEq, Repr

namespace Token

/-- The blanks between tokens. -/
def isBlank (c : Char) : Bool := c = ' ' ∨ c = '\t' ∨ c = '\n' ∨ c = '\r'

/-- The character that a one-letter escape stands for. -/
def escaped? (c : Char) : Option Char :=
  match c with
  | '"' => some '"'
  | '\\' => some '\\'
  | '/' => some '/'
  | 'b' => some '\x08'
  | 'f' => some '\x0c'
  | 'n' => some '\n'
  | 'r' => some '\r'
  | 't' => some '\t'
  | _ => none

/-- Reads a string behind its opening quote: its code points, with an escaped surrogate as a unit of
its own, and the text behind the closing quote. A control character has to be escaped. -/
def readUnits? : List Char → Option (List Nat × List Char)
  | [] => none
  | '"' :: rest => some ([], rest)
  | '\\' :: 'u' :: a :: b :: c :: d :: rest => do
    let unit ← Text.Hex.number? [a, b, c, d]
    let (units, rest) ← readUnits? rest
    return (unit :: units, rest)
  | '\\' :: c :: rest => do
    let plain ← escaped? c
    let (units, rest) ← readUnits? rest
    return (plain.toNat :: units, rest)
  | c :: rest =>
    if c.toNat < 0x20 ∨ c = '\\' then none
    else do
      let (units, rest) ← readUnits? rest
      return (c.toNat :: units, rest)

/-- Whether a unit is the first half of a surrogate pair. -/
def isLead (unit : Nat) : Bool := 0xD800 ≤ unit ∧ unit < 0xDC00

/-- Whether a unit is the second half of a surrogate pair. -/
def isTrail (unit : Nat) : Bool := 0xDC00 ≤ unit ∧ unit < 0xE000

/-- Puts a text together: two halves of a surrogate pair make one character, and half a pair makes
none. -/
def ofUnits? : List Nat → Option (List Char)
  | [] => some []
  | a :: b :: rest =>
    if isLead a then
      if isTrail b then
        (ofUnits? rest).map (Char.ofNat (0x10000 + (a - 0xD800) * 0x400 + (b - 0xDC00)) :: ·)
      else none
    else if isTrail a then none
    else (ofUnits? (b :: rest)).map (Char.ofNat a :: ·)
  | [a] => if isLead a || isTrail a then none else some [Char.ofNat a]

def readWord? (word : List Char) (token : Token) (s : List Char) : Option (Token × List Char) :=
  (Text.strip? word s).map fun rest => (token, rest)

def read? (s : List Char) : Option (Token × List Char) :=
  match s with
  | '[' :: rest => some (openArray, rest)
  | ']' :: rest => some (closeArray, rest)
  | '{' :: rest => some (openObject, rest)
  | '}' :: rest => some (closeObject, rest)
  | ',' :: rest => some (comma, rest)
  | ':' :: rest => some (colon, rest)
  | 'n' :: _ => readWord? ['n', 'u', 'l', 'l'] null s
  | 't' :: _ => readWord? ['t', 'r', 'u', 'e'] (bool true) s
  | 'f' :: _ => readWord? ['f', 'a', 'l', 's', 'e'] (bool false) s
  | '"' :: rest => (readUnits? rest).map fun (units, rest) =>
      (string ((ofUnits? units).map String.ofList), rest)
  | s => (Numeral.read? s).map fun (n, rest) => (number n.value?, rest)

theorem length_lt_of_readUnits? {s rest : List Char} {units : List Nat}
    (h : readUnits? s = some (units, rest)) : rest.length < s.length := by
  fun_induction readUnits? s generalizing units rest with
  | case1 => simp at h
  | case2 => simp_all
  | case3 a b c d after ih =>
    simp only [Option.bind_eq_bind, Option.bind_eq_some_iff] at h
    obtain ⟨_, _, ⟨_, _⟩, read, h⟩ := h
    have := ih read
    simp_all
    omega
  | case4 c after _ ih =>
    simp only [Option.bind_eq_bind, Option.bind_eq_some_iff] at h
    obtain ⟨_, _, ⟨_, _⟩, read, h⟩ := h
    have := ih read
    simp_all
    omega
  | case5 => simp at h
  | case6 c after _ _ _ _ ih =>
    simp only [Option.bind_eq_bind, Option.bind_eq_some_iff] at h
    obtain ⟨⟨_, _⟩, read, h⟩ := h
    have := ih read
    simp_all
    omega

theorem length_lt_of_readWord? {word s rest : List Char} {token found : Token}
    (nonempty : word ≠ []) (h : readWord? word token s = some (found, rest)) :
    rest.length < s.length := by
  simp only [readWord?, Option.map_eq_some_iff, Text.strip?_eq_some_iff] at h
  obtain ⟨_, rfl, h⟩ := h
  have := List.length_pos_iff.2 nonempty
  simp_all

/-- Every token takes some of the text. -/
theorem length_lt_of_read? {s rest : List Char} {token : Token}
    (h : read? s = some (token, rest)) : rest.length < s.length := by
  unfold read? at h
  split at h
  iterate 6 simp_all
  iterate 3 exact length_lt_of_readWord? (by simp) h
  · simp only [Option.map_eq_some_iff] at h
    obtain ⟨⟨_, _⟩, read, h⟩ := h
    have := length_lt_of_readUnits? read
    simp_all
    omega
  · simp only [Option.map_eq_some_iff] at h
    obtain ⟨⟨_, _⟩, read, h⟩ := h
    have := Numeral.length_lt_of_read? read
    simp_all

def scan? (s : List Char) : Option (List Token) :=
  match s with
  | [] => some []
  | c :: rest =>
    if isBlank c then scan? rest
    else match _found : read? (c :: rest) with
      | none => none
      | some (token, after) => (scan? after).map (token :: ·)
termination_by s.length
decreasing_by
  · simp
  · exact length_lt_of_read? _found

end Token

end ImportBoundary.Json
