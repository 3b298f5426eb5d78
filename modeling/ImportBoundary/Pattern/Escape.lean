import ImportBoundary.Pattern.Error
import ImportBoundary.Pattern.Term
import ImportBoundary.Text.Basic
import ImportBoundary.Text.Split

/-!
# Escapes and blanks of a pattern

What a backslash introduces, both outside and inside of classes. In verbose mode blanks and comments
may stand almost everywhere, also between the digits of an escape, so the readers here skip them as
they go (`skip`).
-/

namespace ImportBoundary.Pattern

/-- Drops blanks and comments. A comment begins with a number sign and ends with its line. -/
def skipComments (inComment : Bool) : List Char → List Char
  | [] => []
  | c :: rest =>
    if inComment then skipComments (c ≠ '\n') rest
    else if Text.isBlank c then skipComments false rest
    else if c = '#' then skipComments true rest
    else c :: rest

/-- In verbose mode, drops blanks and comments. -/
def skip (verbose : Bool) (s : List Char) : List Char := if verbose then skipComments false s else s

/-- Reads up to a closing brace, without the blanks and comments of verbose mode. -/
def untilBrace? (verbose inComment : Bool) : List Char → Option (List Char × List Char)
  | [] => none
  | c :: rest =>
    if inComment then untilBrace? verbose (c ≠ '\n') rest
    else if verbose && Text.isBlank c then untilBrace? verbose false rest
    else if verbose && c = '#' then untilBrace? verbose true rest
    else if c = '}' then some ([], rest)
    else (untilBrace? verbose false rest).map fun (inner, rest) => (c :: inner, rest)

/-- Reads `n` characters, without the blanks and comments of verbose mode. -/
def takeSpaced? (verbose inComment : Bool) (n : Nat) : List Char → Option (List Char × List Char)
  | [] => if n = 0 then some ([], []) else none
  | c :: rest =>
    match n with
    | 0 => some ([], c :: rest)
    | n + 1 =>
      if inComment then takeSpaced? verbose (c ≠ '\n') (n + 1) rest
      else if verbose && Text.isBlank c then takeSpaced? verbose false (n + 1) rest
      else if verbose && c = '#' then takeSpaced? verbose true (n + 1) rest
      else (takeSpaced? verbose false n rest).map fun (taken, rest) => (c :: taken, rest)

/-- Reads the characters that pass a test, without the blanks and comments of verbose mode. -/
def takeWhileSpaced (verbose inComment : Bool) (p : Char → Bool) :
    List Char → List Char × List Char
  | [] => ([], [])
  | c :: rest =>
    if inComment then takeWhileSpaced verbose (c ≠ '\n') p rest
    else if verbose && Text.isBlank c then takeWhileSpaced verbose false p rest
    else if verbose && c = '#' then takeWhileSpaced verbose true p rest
    else if p c then
      let (taken, rest) := takeWhileSpaced verbose false p rest
      (c :: taken, rest)
    else ([], c :: rest)

/-- What an escape, or a single character, stands for. -/
inductive Primitive where
  | literal (l : Literal)
  | anchor (a : Anchor)
  | property (negated : Bool) (query : PropertyQuery)
  | letter (negated : Bool) (kind : LetterClass)

/-! ### Code points

Hexadecimal digits in braces may be any number of digits, and without braces the letter says how many.
Surrogates and numbers beyond the last code point are no characters.
-/

def charOfHex? (digits : List Char) : Option Char :=
  if digits = [] then none else Text.Hex.char? digits

/-- Reads the code point behind `x`, `u` or `U`: in braces, or with 2, 4 or 8 digits. -/
def readCode (verbose : Bool) (width : Nat) (s : List Char) : Except Fault (Primitive × List Char) :=
  match skip verbose s with
  | '{' :: rest =>
    match untilBrace? verbose false rest with
    | none => .error .unfinishedEscape
    | some (digits, rest) =>
      match charOfHex? digits with
      | some c => .ok (.literal ⟨c, false⟩, rest)
      | none => .error .invalidCode
  | s =>
    match takeSpaced? verbose false width s with
    | none => .error .unfinishedEscape
    | some (digits, rest) =>
      match charOfHex? digits with
      | some c => .ok (.literal ⟨c, width = 2⟩, rest)
      | none => .error .invalidCode

/-! ### Properties

A property is looked up later, when the meaning of the pattern is worked out. Here its name and its
value are cut apart, at the first separator of the kind that is looked for first.
-/

def splitFirst? (sep : List Char) : List Char → Option (List Char × List Char)
  | [] => none
  | c :: rest =>
    match Text.strip? sep (c :: rest) with
    | some after => some ([], after)
    | none => (splitFirst? sep rest).map fun (before, after) => (c :: before, after)

/-- The query that stands in braces, and whether it asks for the complement. -/
def queryOf (inner : List Char) : Bool × PropertyQuery :=
  match splitFirst? ['!', '='] inner with
  | some (p, v) => (true, .valued (String.ofList p) (String.ofList v))
  | none =>
    match splitFirst? [':'] inner with
    | some (p, v) => (false, .valued (String.ofList p) (String.ofList v))
    | none =>
      match splitFirst? ['='] inner with
      | some (p, v) => (false, .valued (String.ofList p) (String.ofList v))
      | none => (false, .named (String.ofList inner))

/-- Reads the property behind `p` or `P`: in braces, or one letter. -/
def readProperty (verbose negated : Bool) (s : List Char) : Except Fault (Primitive × List Char) :=
  match skip verbose s with
  | [] => .error .unfinishedEscape
  | '{' :: rest =>
    match untilBrace? verbose false rest with
    | none => .error .unfinishedEscape
    | some (inner, rest) =>
      let (complement, query) := queryOf inner
      .ok (.property (negated != complement) query, rest)
  | '\\' :: _ => .error .unknownProperty
  | c :: rest => .ok (.property negated (.named (String.singleton c)), rest)

/-! ### Word boundaries

Braces behind a word boundary are ambiguous: they may name a kind of boundary or begin a repetition.
What stands behind the opening brace decides.
-/

def wordPlace? (name : String) : Option WordPlace :=
  match name with
  | "start" => some .start
  | "end" => some .finish
  | "start-half" => some .startHalf
  | "end-half" => some .finishHalf
  | _ => none

def isPlaceChar (c : Char) : Bool := c.isAlpha || c = '-'

/-- Reads what may follow `\b`: the name of a place in braces. Braces that do not begin with a name
are left for a repetition. -/
def readWordPlace (verbose : Bool) (s : List Char) : Except Fault (WordPlace × List Char) :=
  match s with
  | '{' :: rest =>
    match skip verbose rest with
    | [] => .error .invalidWordPlace
    | c :: _ =>
      if isPlaceChar c then
        match takeWhileSpaced verbose false isPlaceChar rest with
        | (name, '}' :: rest) =>
          match wordPlace? (String.ofList name) with
          | some place => .ok (place, rest)
          | none => .error .invalidWordPlace
        | _ => .error .invalidWordPlace
      else .ok (.boundary, s)
  | _ => .ok (.boundary, s)

/-! ### Escapes

A backslash before a letter or a digit has a meaning of its own or none at all. Before other characters
of ASCII it stands for the character, whether that has a meaning in patterns or not, except for angle
brackets, which are word boundaries.
-/

/-- The characters with a meaning of their own in patterns. -/
def isMeta (c : Char) : Bool :=
  ['\\', '.', '+', '*', '?', '(', ')', '|', '[', ']', '{', '}', '^', '$', '#', '&', '-', '~'].contains c

/-- Whether a backslash before a character without a meaning of its own stands for the character. -/
def isEscapable (c : Char) : Bool :=
  isMeta c || (c.toNat < 0x80 && !c.isAlphanum && c ≠ '<' && c ≠ '>')

def readEscape (verbose : Bool) (s : List Char) : Except Fault (Primitive × List Char) :=
  let literal (c : Char) (rest : List Char) : Except Fault (Primitive × List Char) := .ok (.literal ⟨c, false⟩, rest)
  let anchor (a : Anchor) (rest : List Char) : Except Fault (Primitive × List Char) := .ok (.anchor a, rest)
  match s with
  | [] => .error .unfinishedEscape
  | c :: rest =>
    if c.isDigit then .error .backreference
    else match c with
    | 'x' => readCode verbose 2 rest
    | 'u' => readCode verbose 4 rest
    | 'U' => readCode verbose 8 rest
    | 'p' => readProperty verbose false rest
    | 'P' => readProperty verbose true rest
    | 'd' => .ok (.letter false .digit, rest)
    | 'D' => .ok (.letter true .digit, rest)
    | 's' => .ok (.letter false .space, rest)
    | 'S' => .ok (.letter true .space, rest)
    | 'w' => .ok (.letter false .word, rest)
    | 'W' => .ok (.letter true .word, rest)
    | 'a' => literal '\x07' rest
    | 'f' => literal '\x0c' rest
    | 't' => literal '\t' rest
    | 'n' => literal '\n' rest
    | 'r' => literal '\r' rest
    | 'v' => literal '\x0b' rest
    | 'A' => anchor .textStart rest
    | 'z' => anchor .textEnd rest
    | 'b' => (readWordPlace verbose rest).map fun (place, rest) => (.anchor (.word place), rest)
    | 'B' => anchor (.word .inside) rest
    | '<' => anchor (.word .start) rest
    | '>' => anchor (.word .finish) rest
    | c => if isEscapable c then literal c rest else .error .unknownEscape

end ImportBoundary.Pattern
