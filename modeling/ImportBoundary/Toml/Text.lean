import ImportBoundary.Text.Basic
import ImportBoundary.Text.Split
import ImportBoundary.Toml.Basic

/-!
# Strings, keys and blanks of TOML

Strings stand in double quotes, where a backslash introduces an escape, or in single quotes, where it
does not; three quotes let a string run over several lines. Control characters other than the tab may
stand nowhere.
-/

namespace ImportBoundary.Toml

/-- Whether a character may stand in comments and strings. -/
def isPlain (c : Char) : Bool := c = '\t' || (0x20 ≤ c.toNat && c.toNat ≠ 0x7F)

def isBlank (c : Char) : Bool := c = ' ' || c = '\t'

def skipBlanks (s : List Char) : List Char := s.dropWhile isBlank

def lineEnd? : List Char → Option (List Char)
  | '\n' :: rest => some rest
  | '\r' :: '\n' :: rest => some rest
  | _ => none

def skipLines (inComment : Bool) : List Char → Except Fault (List Char)
  | [] => .ok []
  | '\n' :: rest => skipLines false rest
  | '\r' :: '\n' :: rest => skipLines false rest
  | c :: rest =>
    if inComment then if isPlain c then skipLines true rest else .error .unexpected
    else if isBlank c then skipLines false rest
    else if c = '#' then skipLines true rest
    else .ok (c :: rest)

def skipComment : List Char → Except Fault (List Char)
  | [] => .ok []
  | '\n' :: rest => .ok ('\n' :: rest)
  | '\r' :: '\n' :: rest => .ok ('\r' :: '\n' :: rest)
  | c :: rest => if isPlain c then skipComment rest else .error .unexpected

/-! ### Escapes

Every escape takes something of the text, and so the readers of strings end.
-/

def escaped? (c : Char) : Option Char :=
  match c with
  | 'b' => some '\x08'
  | 't' => some '\t'
  | 'n' => some '\n'
  | 'f' => some '\x0c'
  | 'r' => some '\r'
  | 'e' => some '\x1b'
  | '"' => some '"'
  | '\\' => some '\\'
  | _ => none

def readEscape? : List Char → Option (Char × List Char)
  | 'x' :: a :: b :: rest => (Text.Hex.char? [a, b]).map (·, rest)
  | 'u' :: a :: b :: c :: d :: rest => (Text.Hex.char? [a, b, c, d]).map (·, rest)
  | 'U' :: a :: b :: c :: d :: e :: f :: g :: h :: rest =>
    (Text.Hex.char? [a, b, c, d, e, f, g, h]).map (·, rest)
  | c :: rest => (escaped? c).map (·, rest)
  | [] => none

theorem length_lt_of_readEscape? {s rest : List Char} {c : Char}
    (h : readEscape? s = some (c, rest)) : rest.length < s.length := by
  unfold readEscape? at h
  split at h <;> simp at h
  all_goals
    obtain ⟨_, _, _, rfl⟩ := h
    simp
  all_goals omega

/-! ### Strings on one line

A line end in such a string is a fault, and so is the end of the document.
-/

def readBasic? (s : List Char) : Option (List Char × List Char) :=
  match s with
  | [] => none
  | '"' :: rest => some ([], rest)
  | '\\' :: rest =>
    match _found : readEscape? rest with
    | none => none
    | some (c, rest) => (readBasic? rest).map fun (text, rest) => (c :: text, rest)
  | c :: rest =>
    if isPlain c then (readBasic? rest).map fun (text, rest) => (c :: text, rest) else none
termination_by s.length
decreasing_by
  · have := length_lt_of_readEscape? _found
    simp
    omega
  · simp

def readLiteral? : List Char → Option (List Char × List Char)
  | [] => none
  | '\'' :: rest => some ([], rest)
  | c :: rest =>
    if isPlain c then (readLiteral? rest).map fun (text, rest) => (c :: text, rest) else none

/-! ### Strings on several lines

Quotes inside of a long string are kept as long as there are no three of them. At its end there may be
up to five, of which the last three close it.
-/

/-- Drops the end of the line behind the opening quotes. -/
def dropFirstLineEnd (s : List Char) : List Char := (lineEnd? s).getD s

def countQuotes (quote : Char) (s : List Char) : Nat := (s.takeWhile (· = quote)).length

/-- Ends a string at three quotes or more: up to two of them belong to the string. -/
def closeLong? (quote : Char) (s : List Char) : Option (List Char × List Char) :=
  let n := countQuotes quote s
  if 3 ≤ n then
    let own := min (n - 3) 2
    some (List.replicate own quote, s.drop (own + 3))
  else none

def dropBlankLines : List Char → List Char
  | '\n' :: rest => dropBlankLines rest
  | '\r' :: '\n' :: rest => dropBlankLines rest
  | ' ' :: rest => dropBlankLines rest
  | '\t' :: rest => dropBlankLines rest
  | s => s

/-- What follows a backslash at the end of a line: the next character that is no blank and no line
end. Between the backslash and the end of its line only blanks may stand. -/
def continued? (s : List Char) : Option (List Char) := (lineEnd? (skipBlanks s)).map dropBlankLines

theorem length_dropBlankLines_le (s : List Char) : (dropBlankLines s).length ≤ s.length := by
  fun_induction dropBlankLines s <;> simp <;> omega

theorem length_le_of_lineEnd? {s rest : List Char} (h : lineEnd? s = some rest) :
    rest.length ≤ s.length := by
  unfold lineEnd? at h
  split at h <;> simp at h <;> subst h <;> simp
  omega

theorem length_le_of_continued? {s rest : List Char} (h : continued? s = some rest) :
    rest.length ≤ s.length := by
  obtain ⟨line, found, rfl⟩ := Option.map_eq_some_iff.1 h
  have h1 := length_le_of_lineEnd? found
  have h2 : (skipBlanks s).length ≤ s.length := (List.dropWhile_sublist _).length_le
  have h3 := length_dropBlankLines_le line
  omega

/-- Reads a string behind three double quotes. A line end is one character in the string. -/
def readLongBasic? (s : List Char) : Option (List Char × List Char) :=
  match closeLong? '"' s with
  | some result => some result
  | none =>
    match s with
    | [] => none
    | '\\' :: rest =>
      match _found : continued? rest with
      | some rest => readLongBasic? rest
      | none =>
        match _found : readEscape? rest with
        | none => none
        | some (c, rest) => (readLongBasic? rest).map fun (text, rest) => (c :: text, rest)
    | '\n' :: rest => (readLongBasic? rest).map fun (text, rest) => ('\n' :: text, rest)
    | '\r' :: '\n' :: rest => (readLongBasic? rest).map fun (text, rest) => ('\n' :: text, rest)
    | c :: rest =>
      if isPlain c then (readLongBasic? rest).map fun (text, rest) => (c :: text, rest) else none
termination_by s.length
decreasing_by
  · have := length_le_of_continued? _found
    simp
    omega
  · have := length_lt_of_readEscape? _found
    simp
    omega
  all_goals
    simp only [List.length_cons]
    omega

def readLongLiteral? (s : List Char) : Option (List Char × List Char) :=
  match closeLong? '\'' s with
  | some result => some result
  | none =>
    match s with
    | [] => none
    | '\n' :: rest => (readLongLiteral? rest).map fun (text, rest) => ('\n' :: text, rest)
    | '\r' :: '\n' :: rest => (readLongLiteral? rest).map fun (text, rest) => ('\n' :: text, rest)
    | c :: rest =>
      if isPlain c then (readLongLiteral? rest).map fun (text, rest) => (c :: text, rest) else none
termination_by s.length
decreasing_by
  all_goals
    simp only [List.length_cons]
    omega

def readString? : List Char → Option (Option (List Char × List Char))
  | '"' :: '"' :: '"' :: rest => some (readLongBasic? (dropFirstLineEnd rest))
  | '\'' :: '\'' :: '\'' :: rest => some (readLongLiteral? (dropFirstLineEnd rest))
  | '"' :: rest => some (readBasic? rest)
  | '\'' :: rest => some (readLiteral? rest)
  | _ => none

/-! ### Keys

A part of a key is bare or in quotes. A string of several lines is no key.
-/

def isBareChar (c : Char) : Bool := c.isAlphanum || c = '_' || c = '-'

def readKeyPart (s : List Char) : Except Fault (String × List Char) :=
  match s with
  | '"' :: rest =>
    match readBasic? rest with
    | some (text, rest) => .ok (String.ofList text, rest)
    | none => .error .invalidKey
  | '\'' :: rest =>
    match readLiteral? rest with
    | some (text, rest) => .ok (String.ofList text, rest)
    | none => .error .invalidKey
  | s =>
    match s.takeWhile isBareChar with
    | [] => .error .invalidKey
    | bare => .ok (String.ofList bare, s.dropWhile isBareChar)

end ImportBoundary.Toml
