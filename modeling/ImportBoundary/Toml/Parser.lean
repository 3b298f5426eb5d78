import ImportBoundary.Text.Progress
import ImportBoundary.Toml.Scalar
import ImportBoundary.Toml.Table
import ImportBoundary.Toml.Text

/-!
# Reading TOML

A document is read line by line into its root table (`parse`). Values may hold at most `maxDepth`
arrays and tables in braces inside each other.

The table of the last header is kept apart from the root and put into it when the next header comes, or
the end of the document. Lines between two headers are thus added to one table, whose keys are checked
as they come.
-/

namespace ImportBoundary.Toml

/-- The number of arrays and tables in braces that may stand inside each other. -/
def maxDepth : Nat := 80

/-- Reads a key with the dots in it: the parts before the last one, and the last one. -/
def readKey (s : List Char) : Except Fault ((List String × String) × List Char) :=
  let step (state : List String × List Char) :
      Except Fault ((List String × List Char) ⊕ ((List String × String) × List Char)) := do
    let (part, rest) ← readKeyPart (skipBlanks state.2)
    match skipBlanks rest with
    | '.' :: rest => .ok (.inl (part :: state.1, rest))
    | rest => .ok (.inr ((state.1.reverse, part), rest))
  Text.iterate Prod.snd .invalidKey step ([], s)

def readKeySign (s : List Char) : Except Fault ((List String × String) × List Char) := do
  let (key, rest) ← readKey s
  match rest with
  | '=' :: rest => .ok (key, rest)
  | _ => .error .unexpected

/-- Reads an array behind its opening bracket. Items are separated by commas, and there may be one
behind the last item. -/
def readItems (value : List Char → Except Fault (Value × List Char)) (s : List Char) :
    Except Fault (Value × List Char) :=
  let step (state : List Value × List Char) :
      Except Fault ((List Value × List Char) ⊕ (Value × List Char)) := do
    match ← skipLines false state.2 with
    | ']' :: rest => .ok (.inr (.array state.1.reverse, rest))
    | rest => do
      let (item, rest) ← value rest
      match ← skipLines false rest with
      | ',' :: rest => .ok (.inl (item :: state.1, rest))
      | ']' :: rest => .ok (.inr (.array (item :: state.1).reverse, rest))
      | _ => .error .unexpected
  Text.iterate Prod.snd .unexpected step ([], s)

def readMembers (value : List Char → Except Fault (Value × List Char)) (s : List Char) :
    Except Fault (Value × List Char) :=
  let step (state : Members × List Char) :
      Except Fault ((Members × List Char) ⊕ (Value × List Char)) := do
    match ← skipLines false state.2 with
    | '}' :: rest => .ok (.inr (.table .inline state.1, rest))
    | rest => do
      let ((path, key), rest) ← readKeySign rest
      let (item, rest) ← value (skipBlanks rest)
      let members ← addKeyInline path key item state.1
      match ← skipLines false rest with
      | ',' :: rest => .ok (.inl (members, rest))
      | '}' :: rest => .ok (.inr (.table .inline members, rest))
      | _ => .error .unexpected
  Text.iterate Prod.snd .unexpected step ([], s)

/-- Reads a value that may hold `depth` arrays and tables inside each other. -/
def readValue (depth : Nat) (s : List Char) : Except Fault (Value × List Char) :=
  match s with
  | '[' :: rest =>
    match depth with
    | 0 => .error .tooDeep
    | depth + 1 => readItems (readValue depth) rest
  | '{' :: rest =>
    match depth with
    | 0 => .error .tooDeep
    | depth + 1 => readMembers (readValue depth) rest
  | s =>
    match readString? s with
    | some (some (text, rest)) => .ok (.string (String.ofList text), rest)
    | some none => .error .invalidString
    | none => readScalar s

/-- A header: the path of the table, and whether it is an element of an array. -/
structure Header where
  path : List String
  key : String
  isElement : Bool
deriving DecidableEq, Repr

def readHeader (s : List Char) : Except Fault (Header × List Char) :=
  match s with
  | '[' :: rest => do
    let ((path, key), rest) ← readKey rest
    match rest with
    | ']' :: ']' :: rest => .ok (⟨path, key, true⟩, rest)
    | _ => .error .invalidTable
  | s => do
    let ((path, key), rest) ← readKey s
    match rest with
    | ']' :: rest => .ok (⟨path, key, false⟩, rest)
    | _ => .error .invalidTable

/-- Drops the end of a line behind an expression, with the comment before it. -/
def endLine (s : List Char) : Except Fault (List Char) := do
  let s ← match skipBlanks s with
    | '#' :: rest => skipComment rest
    | s => .ok s
  match s with
  | [] => .ok []
  | s => match lineEnd? s with
    | some rest => .ok rest
    | none => .error .unexpected

/-- The reader of a document: the finished tables, the table that keys are added to, its header, and
the rest of the text. -/
structure DocumentState where
  root : Members
  current : Members
  header : Option Header
  rest : List Char

namespace DocumentState

def finish (d : DocumentState) : Except Fault Members :=
  match d.header with
  | none => .ok d.current
  | some h =>
    if h.isElement then placeElement h.path h.key d.current d.root
    else placeTable h.path h.key d.current d.root

def start (root : Members) (h : Header) (rest : List Char) : Except Fault DocumentState :=
  if h.isElement then .ok ⟨root, [], some h, rest⟩
  else do
    let (root, before) ← membersBefore h.path h.key root
    .ok ⟨root, before, some h, rest⟩

/-- Reads one header, one key with its value, or the blanks and comments before them. -/
def step (d : DocumentState) : Except Fault (DocumentState ⊕ Members) := do
  match ← skipLines false d.rest with
  | [] => do
    let root ← d.finish
    .ok (.inr root)
  | '[' :: rest => do
    let root ← d.finish
    let (h, rest) ← readHeader rest
    let rest ← endLine rest
    let next ← start root h rest
    .ok (.inl next)
  | rest => do
    let ((path, key), rest) ← readKeySign rest
    let (value, rest) ← readValue maxDepth (skipBlanks rest)
    let current ← addKey path key value d.current
    let rest ← endLine rest
    .ok (.inl { d with current, rest })

end DocumentState

def dropMark : List Char → List Char
  | '\uFEFF' :: rest => rest
  | s => s

def parse (text : String) : Except Fault Members :=
  Text.iterate DocumentState.rest .unexpected DocumentState.step
    ⟨[], [], none, dropMark text.toList⟩

end ImportBoundary.Toml
