import ImportBoundary.Pattern.Bracket
import ImportBoundary.Unicode.Category
import ImportBoundary.Unicode.Property

/-!
# Reading a pattern

A pattern is read from left to right by a machine whose stack holds the groups that are still open
(`ReadState`). `Term.parse` reads a whole text and bounds the nesting of the result.

Verbose mode is a matter of reading: it decides which blanks count, and nothing of it is left in the
term. The other flags are kept where they stand, and what they do to a term is found out when its
meaning is.
-/

namespace ImportBoundary.Pattern

/-- A group that is still open: the terms and alternatives before it, in reverse order, and how it
was opened. -/
structure OpenGroup where
  terms : List Term
  branches : List Term
  capture : Bool
  setting : FlagSetting
  verbose : Bool

/-- The reader of a pattern: the terms and finished alternatives of the group it is in, in reverse
order, the open groups around it, the names given so far, and the rest of the text. -/
structure ReadState where
  rest : List Char
  verbose : Bool
  names : List (List Char)
  terms : List Term
  branches : List Term
  outer : List OpenGroup

def isAlphabetic (c : Char) : Bool :=
  if c.toNat < 0x80 then c.isAlpha
  else match Unicode.property? "alphabetic" with
    | some s => s.mem c.toNat
    | none => false

def isAlphanumeric (c : Char) : Bool :=
  if c.toNat < 0x80 then c.isAlphanum
  else isAlphabetic c || (Unicode.ofCategories ["Nd", "Nl", "No"]).mem c.toNat

def isGroupName : List Char → Bool
  | [] => false
  | first :: more =>
    (first = '_' || isAlphabetic first) &&
      more.all fun c => c = '_' || c = '.' || c = '[' || c = ']' || isAlphanumeric c

def flag? (c : Char) : Option Flag :=
  match c with
  | 'i' => some .ignoreCase
  | 'm' => some .multiLine
  | 's' => some .dotAll
  | 'U' => some .swapGreed
  | 'u' => some .unicode
  | 'R' => some .carriageReturn
  | 'x' => some .verbose
  | _ => none

/-- Reads the flags of a group up to the colon or parenthesis behind them. No flag and no minus sign
may stand twice, and a minus sign needs a flag behind it. -/
def readFlags (setting : FlagSetting) : List Char → Except Fault (FlagSetting × Char × List Char)
  | [] => .error .invalidFlags
  | c :: rest =>
    if c = ':' ∨ c = ')' then
      if setting.getLast? = some none then .error .invalidFlags else .ok (setting, c, rest)
    else if c = '-' then
      if setting.contains none then .error .invalidFlags else readFlags (setting ++ [none]) rest
    else match flag? c with
      | none => .error .invalidFlags
      | some f =>
        if setting.contains (some f) then .error .invalidFlags
        else readFlags (setting ++ [some f]) rest

namespace ReadState

def push (s : ReadState) (term : Term) (rest : List Char) : ReadState :=
  { s with rest, terms := term :: s.terms }

def openGroup (s : ReadState) (capture : Bool) (setting : FlagSetting) (rest : List Char) :
    ReadState :=
  { s with
    rest
    verbose := (setting.value? .verbose).getD s.verbose
    terms := []
    branches := []
    outer := ⟨s.terms, s.branches, capture, setting, s.verbose⟩ :: s.outer }

def openNamed (s : ReadState) (rest : List Char) : Except Fault ReadState :=
  let name := rest.takeWhile (· ≠ '>')
  match rest.dropWhile (· ≠ '>') with
  | [] => .error .invalidGroupName
  | _ :: rest =>
    if !isGroupName name then .error .invalidGroupName
    else if s.names.contains name then .error .repeatedGroupName
    else .ok { s.openGroup true [] rest with names := name :: s.names }

/-- Opens a group behind its question mark, or switches flags. -/
def openFlags (s : ReadState) (rest : List Char) : Except Fault ReadState := do
  let (setting, stop, rest) ← readFlags [] rest
  if stop = ':' then return s.openGroup false setting rest
  else if setting = [] then .error .missingOperand
  else return { s.push (.flags setting) rest with
    verbose := (setting.value? .verbose).getD s.verbose }

def openParenthesis (s : ReadState) (rest : List Char) : Except Fault ReadState :=
  match skip s.verbose rest with
  | '?' :: '=' :: _ => .error .lookAround
  | '?' :: '!' :: _ => .error .lookAround
  | '?' :: '<' :: '=' :: _ => .error .lookAround
  | '?' :: '<' :: '!' :: _ => .error .lookAround
  | '?' :: 'P' :: '<' :: rest => s.openNamed rest
  | '?' :: '<' :: rest => s.openNamed rest
  | '?' :: rest => s.openFlags rest
  | rest => .ok (s.openGroup true [] rest)

/-- The terms and alternatives of the innermost group as one term. -/
def contents (s : ReadState) : Term :=
  .ofBranches (s.branches.reverse ++ [.ofList s.terms.reverse])

def closeParenthesis (s : ReadState) (rest : List Char) : Except Fault ReadState :=
  match s.outer with
  | [] => .error .unopenedGroup
  | g :: outer => .ok {
      rest
      verbose := g.verbose
      names := s.names
      terms := .group g.capture g.setting s.contents :: g.terms
      branches := g.branches
      outer }

def nextBranch (s : ReadState) (rest : List Char) : ReadState :=
  { s with rest, terms := [], branches := .ofList s.terms.reverse :: s.branches }

def repeatLast (s : ReadState) (least : Nat) (most : Option Nat) (rest : List Char) :
    Except Fault ReadState :=
  match s.terms with
  | [] => .error .missingOperand
  | .flags _ :: _ => .error .missingOperand
  | term :: before => .ok { s with rest, terms := .repeated term least most :: before }

/-- Drops the question mark that makes a repetition lazy. Laziness decides which match is found but
not whether there is one. -/
def dropLazy : List Char → List Char
  | '?' :: rest => rest
  | rest => rest

end ReadState

def maxCount : Nat := UInt32.size - 1

/-- Reads a count; none if there is no digit. -/
def readCount (verbose : Bool) (s : List Char) : Except Fault ((Option Nat) × List Char) :=
  let (digits, rest) := takeWhileSpaced verbose false Char.isDigit (s.dropWhile Text.isBlank)
  let rest := skip verbose (rest.dropWhile Text.isBlank)
  match digits with
  | [] => .ok (none, rest)
  | digits =>
    let n := digits.foldl (fun n d => n * 10 + (d.toNat - '0'.toNat)) 0
    if n ≤ maxCount then .ok (some n, rest) else .error .invalidCount

def readCounts (verbose : Bool) (s : List Char) : Except Fault ((Nat × Option Nat) × List Char) := do
  let (least, rest) ← readCount verbose (skip verbose s)
  match least, rest with
  | some least, '}' :: rest => .ok ((least, some least), rest)
  | some least, ',' :: rest =>
    match skip verbose rest with
    | '}' :: rest => .ok ((least, none), rest)
    | rest => do
      let (most, rest) ← readCount verbose rest
      match most, rest with
      | some most, '}' :: rest =>
        if least ≤ most then .ok ((least, some most), rest) else .error .invalidCount
      | _, _ => .error .invalidCount
  | _, _ => .error .invalidCount

def Primitive.toTerm : Primitive → Term
  | .literal l => .literal l
  | .anchor a => .anchor a
  | .property negated query => .property negated query
  | .letter negated kind => .letter negated kind

namespace ReadState

def step (s : ReadState) : Except Fault (ReadState ⊕ Term) :=
  match skip s.verbose s.rest with
  | [] => if s.outer.isEmpty then .ok (.inr s.contents) else .error .unclosedGroup
  | c :: rest =>
    let next (r : Except Fault ReadState) : Except Fault (ReadState ⊕ Term) := r.map .inl
    match c with
    | '(' => next (s.openParenthesis rest)
    | ')' => next (s.closeParenthesis rest)
    | '|' => .ok (.inl (s.nextBranch rest))
    | '[' => do
      let (term, rest) ← readClass s.verbose rest
      .ok (.inl (s.push term rest))
    | '?' => next (s.repeatLast 0 (some 1) (dropLazy rest))
    | '*' => next (s.repeatLast 0 none (dropLazy rest))
    | '+' => next (s.repeatLast 1 none (dropLazy rest))
    | '{' => do
      let ((least, most), rest) ← readCounts s.verbose rest
      next (s.repeatLast least most (dropLazy (skip s.verbose rest)))
    | '\\' => do
      let (primitive, rest) ← readEscape s.verbose rest
      .ok (.inl (s.push primitive.toTerm rest))
    | '.' => .ok (.inl (s.push .dot rest))
    | '^' => .ok (.inl (s.push (.anchor .lineStart) rest))
    | '$' => .ok (.inl (s.push (.anchor .lineEnd) rest))
    | c => .ok (.inl (s.push (.literal ⟨c, false⟩) rest))

end ReadState

def Term.parse (pattern : String) : Except Fault Term := do
  let term ← Text.iterate ReadState.rest .unfinishedEscape ReadState.step
    ⟨pattern.toList, false, [], [], [], []⟩
  if term.depth ≤ maxTermDepth then .ok term else .error .tooDeep

end ImportBoundary.Pattern
