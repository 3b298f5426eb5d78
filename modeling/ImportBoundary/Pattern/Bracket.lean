import ImportBoundary.Pattern.Escape
import ImportBoundary.Text.Progress

/-!
# Bracketed classes

A bracketed class is read by a machine whose stack holds the brackets that are still open
(`ClassState`). Each step reads one item, one operator or one bracket.

Brackets nest, and an operator between two parts of a bracket binds less than standing side by side, so
an open bracket keeps what stands left of its last operator apart from its items. Operators of a
bracket are applied from left to right.
-/

namespace ImportBoundary.Pattern

/-- An open bracket: its items so far in reverse order, and what stands left of its last
operator. -/
structure OpenBracket where
  negated : Bool
  items : List ClassItem
  pending : Option (ClassSet × ClassOp)

/-- The reader of a class: the open bracket it is in, those around it, and the rest of the text. -/
structure ClassState where
  rest : List Char
  current : OpenBracket
  outer : List OpenBracket

def asciiClassNames : List String :=
  ["alnum", "alpha", "ascii", "blank", "cntrl", "digit", "graph", "lower", "print", "punct", "space",
    "upper", "word", "xdigit"]

/-- Reads an ASCII class such as `[:alpha:]` behind its opening bracket. -/
def readAsciiClass? (s : List Char) : Option (ClassItem × List Char) :=
  match s with
  | ':' :: rest =>
    let (negated, rest) := match rest with
      | '^' :: rest => (true, rest)
      | rest => (false, rest)
    let name := String.ofList (rest.takeWhile (· ≠ ':'))
    match rest.dropWhile (· ≠ ':') with
    | ':' :: ']' :: rest =>
      if asciiClassNames.contains name then some (.ascii negated name, rest) else none
    | _ => none
  | _ => none

namespace OpenBracket

def push (b : OpenBracket) (item : ClassItem) : OpenBracket := { b with items := item :: b.items }

/-- Everything the bracket holds. -/
def contents (b : OpenBracket) : ClassSet :=
  let right := ClassSet.union b.items.reverse
  match b.pending with
  | none => right
  | some (left, kind) => .op kind left right

/-- Puts everything so far to the left of an operator. -/
def operator (b : OpenBracket) (kind : ClassOp) : OpenBracket :=
  { b with items := [], pending := some (b.contents, kind) }

end OpenBracket

/-- Reads the minus signs at the beginning of a class, which stand for themselves. -/
def readLeadingDashes (verbose : Bool) (items : List ClassItem) (s : List Char) :
    List ClassItem × List Char :=
  match takeWhileSpaced verbose false (· = '-') s with
  | (dashes, rest) => (dashes.map (fun _ => ClassItem.literal ⟨'-', false⟩) ++ items, rest)

/-- Reads what may stand directly behind an opening bracket: a negation, minus signs, and a closing
bracket that stands for itself. -/
def openBracket (verbose : Bool) (s : List Char) : Except Fault (OpenBracket × List Char) :=
  let s := skip verbose s
  let (negated, s) := match s with
    | '^' :: rest => (true, skip verbose rest)
    | s => (false, s)
  let (items, s) := readLeadingDashes verbose [] s
  let (items, s) := match items, s with
    | [], ']' :: rest => ([ClassItem.literal ⟨']', false⟩], skip verbose rest)
    | items, s => (items, s)
  if s = [] then .error .unclosedClass else .ok (⟨negated, items, none⟩, s)

/-- Reads one item without looking for a range. -/
def readClassPrimitive (verbose : Bool) (s : List Char) : Except Fault (Primitive × List Char) :=
  match s with
  | [] => .error .unclosedClass
  | '\\' :: rest => readEscape verbose rest
  | c :: rest => .ok (.literal ⟨c, false⟩, rest)

def Primitive.toClassItem : Primitive → Except Fault ClassItem
  | .literal l => .ok (.literal l)
  | .property negated query => .ok (.property negated query)
  | .letter negated kind => .ok (.letter negated kind)
  | .anchor _ => .error .notInClass

def Primitive.toEnd : Primitive → Except Fault Literal
  | .literal l => .ok l
  | _ => .error .invalidRange

/-- The character behind a minus sign, past blanks and the first number sign. -/
def peekBehind? (verbose seenComment : Bool) : List Char → Option Char
  | [] => none
  | c :: rest =>
    if !verbose then some c
    else if Text.isBlank c then peekBehind? verbose seenComment rest
    else if c = '#' && !seenComment then peekBehind? verbose true rest
    else some c

/-- Reads one item or a range of characters. A minus sign before a closing bracket or another minus
sign does not make a range. -/
def readClassItem (verbose : Bool) (s : List Char) : Except Fault (ClassItem × List Char) := do
  let (first, rest) ← readClassPrimitive verbose s
  match skip verbose rest with
  | [] => .error .unclosedClass
  | '-' :: behind =>
    let next := peekBehind? verbose false behind
    if next = some ']' ∨ next = some '-' then do
      let item ← first.toClassItem
      .ok (item, '-' :: behind)
    else do
      -- A range: both of its ends have to be characters, and in order.
      let (last, rest) ← readClassPrimitive verbose (skip verbose behind)
      let first ← first.toEnd
      let last ← last.toEnd
      if first.char ≤ last.char then .ok (.range first last, rest) else .error .invalidRange
  | rest => do
    let item ← first.toClassItem
    .ok (item, rest)

/-- Closes the innermost bracket; the outermost one is the class. -/
def ClassState.close (s : ClassState) (rest : List Char) : ClassState ⊕ (Term × List Char) :=
  match s.outer with
  | [] => .inr (.bracket s.current.negated s.current.contents, rest)
  | b :: outer =>
    .inl ⟨rest, b.push (.bracket s.current.negated s.current.contents), outer⟩

def ClassState.step (verbose : Bool) (s : ClassState) :
    Except Fault (ClassState ⊕ (Term × List Char)) :=
  match skip verbose s.rest with
  | [] => .error .unclosedClass
  | '[' :: rest =>
    match readAsciiClass? rest with
    | some (item, rest) => .ok (.inl ⟨rest, s.current.push item, s.outer⟩)
    | none => do
      let (b, rest) ← openBracket verbose rest
      .ok (.inl ⟨rest, b, s.current :: s.outer⟩)
  | ']' :: rest => .ok (s.close rest)
  | '&' :: '&' :: rest => .ok (.inl ⟨rest, s.current.operator .intersection, s.outer⟩)
  | '-' :: '-' :: rest => .ok (.inl ⟨rest, s.current.operator .difference, s.outer⟩)
  | '~' :: '~' :: rest => .ok (.inl ⟨rest, s.current.operator .symmetricDifference, s.outer⟩)
  | rest => do
    let (item, rest) ← readClassItem verbose rest
    .ok (.inl ⟨rest, s.current.push item, s.outer⟩)

def readClass (verbose : Bool) (s : List Char) : Except Fault (Term × List Char) := do
  let (b, rest) ← openBracket verbose s
  Text.iterate ClassState.rest .unclosedClass (ClassState.step verbose) ⟨rest, b, []⟩

end ImportBoundary.Pattern
