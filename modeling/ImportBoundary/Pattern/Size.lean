import ImportBoundary.Pattern.Expr

/-!
# The size of a pattern

A pattern is refused when the state machine that would recognise it byte by byte, in either
direction, is too large. The size is worked out from the expression without building the machine: a
state takes 32 bytes, a branch of a state 4 or 8 more, and a class takes the states of the tree of
its UTF-8 forms.
-/

namespace ImportBoundary.Pattern

def stateSize : Nat := 32

def branchSize : Nat := 4

/-- The size of a branch to another state under a condition on the byte. -/
def transitionSize : Nat := 8

/-! ### UTF-8 forms of ranges

A range of code points is cut until every piece is a row of byte ranges that can be combined freely.
Forms that begin in the same way share states, so the size of a class is that of the tree of its forms
and not of their list.
-/

abbrev ByteRange := Nat × Nat

/-- The bounds of the code points that take the same number of bytes. -/
def lengthBounds : List (Nat × Nat) :=
  [(0, 0x7F), (0x80, 0x7FF), (0x800, 0xD7FF), (0xE000, 0xFFFF), (0x10000, 0x10FFFF)]

def continuationCount (c : Nat) : Nat :=
  if c < 0x80 then 0 else if c < 0x800 then 1 else if c < 0x10000 then 2 else 3

/-- The mark of the first byte of a form with `k` continuation bytes. -/
def leadMark (k : Nat) : Nat :=
  match k with
  | 0 => 0
  | 1 => 0xC0
  | 2 => 0xE0
  | _ => 0xF0

/-- The byte ranges below a range of code points whose forms have `k` more bytes: the range is cut
wherever a byte before the last one changes. -/
def byteForms (mark k first last : Nat) : List (List ByteRange) :=
  match k with
  | 0 => [[(mark + first, mark + last)]]
  | k + 1 =>
    let unit := 1 <<< (6 * (k + 1))
    let high (c : Nat) : Nat := mark + c / unit
    let full := (List.replicate (k + 1) (0x80, 0xBF) : List ByteRange)
    let below (a b : Nat) : List (List ByteRange) :=
      (byteForms 0x80 k (a % unit) (b % unit)).map fun form => (high a, high a) :: form
    if first / unit = last / unit then below first last
    else
      -- What is left of the first unit, the whole units in between, and the beginning of the last
      -- unit.
      let startsWhole := first % unit = 0
      let endsWhole := last % unit = unit - 1
      let start := if startsWhole then first / unit else first / unit + 1
      let stop := if endsWhole then last / unit else last / unit - 1
      (if startsWhole then [] else below first (first / unit * unit + (unit - 1))) ++
      (if start ≤ stop then [(mark + start, mark + stop) :: full] else []) ++
      (if endsWhole then [] else below (last / unit * unit) last)

def CharRange.forms (r : CharRange) : List (List ByteRange) :=
  lengthBounds.flatMap fun (low, high) =>
    let first := max r.first low
    let last := min r.last high
    if first ≤ last then
      let k := continuationCount first
      byteForms (leadMark k) k first last
    else []

/-- The number of bytes two forms share at their beginning. -/
def shared : List ByteRange → List ByteRange → Nat
  | a :: s, b :: t => if a = b then shared s t + 1 else 0
  | _, _ => 0

/-- The number of edges of the tree of forms in order. -/
def treeEdges (before : List ByteRange) : List (List ByteRange) → Nat
  | [] => 0
  | form :: rest => (form.length - shared before form) + treeEdges form rest

/-- The size of a class. One character takes a state for each of its bytes, ASCII characters take a
single state with a branch for each range. -/
def classSize (set : CharSet) : Nat :=
  match set.ranges with
  | [] => stateSize
  | [r] =>
    if r.first = r.last then (continuationCount r.first + 1) * stateSize
    else if set.isAscii then 2 * stateSize + transitionSize
    else
      let forms := CharRange.forms r
      (treeEdges [] forms + 2) * stateSize + forms.length * branchSize
  | ranges =>
    if set.isAscii then 2 * stateSize + ranges.length * transitionSize
    else
      let forms := ranges.flatMap CharRange.forms
      (treeEdges [] forms + 2) * stateSize + forms.length * branchSize

namespace Expr

mutual

/-- Whether an expression matches nothing but the empty text. -/
def isWidthless : Expr Atom → Bool
  | .empty => true
  | .atom (.chars _) => false
  | .atom (.look _) => true
  | .concat parts => allWidthless parts
  | .alternation branches => allWidthless branches
  | .repeated part _ most => most = some 0 || isWidthless part
  | .capture part => isWidthless part

def allWidthless : List (Expr Atom) → Bool
  | [] => true
  | part :: rest => isWidthless part && allWidthless rest

end

def forkSize : Nat := stateSize + 2 * branchSize

def repetitionSize (part least : Nat) (most : Option Nat) : Nat :=
  match most with
  | none => max least 1 * part + forkSize
  | some most =>
    if most = 0 then stateSize
    else if least = most then least * part
    else least * part + stateSize + (most - least) * (part + forkSize)

mutual

/-- The size of an expression. Repeating an expression without width more than once adds nothing. -/
def size : Expr Atom → Nat
  | .empty => stateSize
  | .atom (.chars set) => classSize set
  | .atom (.look _) => stateSize
  | .concat parts => sizeOfAll parts
  | .alternation branches =>
    sizeOfAll branches + 2 * stateSize + branches.length * branchSize
  | .repeated part least most =>
    if isWidthless part then repetitionSize (size part) (min least 1) (some (min (most.getD 1) 1))
    else repetitionSize (size part) least most
  | .capture part => size part + 2 * stateSize

def sizeOfAll : List (Expr Atom) → Nat
  | [] => 0
  | part :: rest => size part + sizeOfAll rest

end

/-- The size of what surrounds an expression in its machine: a loop that skips to the beginning of a
match, the marks around the match, and the final state. -/
def frameSize : Nat := 8 * stateSize

end Expr

end ImportBoundary.Pattern
