/-!
# Sets of characters

A set of characters is a list of ranges of code points, in order and with a gap between any two.
`CharSet.ofRanges` brings any list of ranges into that form. Surrogates are no characters, so the
complement leaves them out.
-/

namespace ImportBoundary

structure CharRange where
  first : Nat
  last : Nat
deriving DecidableEq, Repr

def CharRange.single (c : Nat) : CharRange := ⟨c, c⟩

/-- A set of characters, as ranges in order with gaps between them. -/
structure CharSet where
  ranges : List CharRange
deriving DecidableEq, Repr

namespace CharSet

def empty : CharSet := ⟨[]⟩

def mem (s : CharSet) (c : Nat) : Bool := s.ranges.any fun r => r.first ≤ c && c ≤ r.last

def isSingle (s : CharSet) : Bool :=
  match s.ranges with
  | [r] => r.first = r.last
  | _ => false

/-- Joins ranges, given in the order of their first code points, that overlap or touch. -/
def merge : List CharRange → List CharRange
  | [] => []
  | r :: rest =>
    match merge rest with
    | [] => [r]
    | next :: more =>
      if next.first ≤ r.last + 1 then ⟨r.first, max r.last next.last⟩ :: more
      else r :: next :: more

def ofRanges (ranges : List CharRange) : CharSet :=
  ⟨merge (ranges.mergeSort fun a b => a.first ≤ b.first)⟩

def ofChars (cs : List Char) : CharSet := ofRanges (cs.map fun c => .single c.toNat)

def union (a b : CharSet) : CharSet := ofRanges (a.ranges ++ b.ranges)

def firstSurrogate : Nat := 0xD800

def lastSurrogate : Nat := 0xDFFF

def maxCodePoint : Nat := 0x10FFFF

def all : CharSet := ⟨[⟨0, firstSurrogate - 1⟩, ⟨lastSurrogate + 1, maxCodePoint⟩]⟩

/-- The parts of `r` that lie in none of the ranges. -/
def subtract (r : CharRange) : List CharRange → List CharRange
  | [] => [r]
  | cut :: rest =>
    if cut.last < r.first then subtract r rest
    else if r.last < cut.first then [r]
    else
      let before := if r.first < cut.first then [⟨r.first, cut.first - 1⟩] else []
      if cut.last < r.last then before ++ subtract ⟨cut.last + 1, r.last⟩ rest else before

def difference (a b : CharSet) : CharSet := ⟨a.ranges.flatMap fun r => subtract r b.ranges⟩

def complement (s : CharSet) : CharSet := all.difference s

def inter (a b : CharSet) : CharSet := a.difference (all.difference b)

def symmetricDifference (a b : CharSet) : CharSet := (a.union b).difference (a.inter b)

def isAscii (s : CharSet) : Bool := s.ranges.all fun r => r.last ≤ 0x7F

end CharSet

def Unicode.hexDigitValue (c : Char) : Nat :=
  if c.isDigit then c.toNat - '0'.toNat else c.toNat - 'a'.toNat + 10

def Unicode.hexNumber (s : String) : Nat :=
  s.toList.foldl (fun n c => n * 16 + Unicode.hexDigitValue c) 0

/-- The entries of a table, which stand between blanks and line ends. -/
def Unicode.words (table : String) : List String :=
  ((table.splitOn "\n").flatMap fun line => line.splitOn " ").filter fun word => !word.isEmpty

namespace CharSet

/-- The ranges of a table of lengths that count code points outside and inside by turns. -/
def rangesOfRuns (start : Nat) : List Nat → List CharRange
  | outside :: inside :: rest =>
    ⟨start + outside, start + outside + inside - 1⟩ :: rangesOfRuns (start + outside + inside) rest
  | _ => []

def ofRuns (table : String) : CharSet :=
  ⟨rangesOfRuns 0 ((Unicode.words table).map Unicode.hexNumber)⟩

/-- One run of a table with labels: its length and its label. The label starts with a capital
letter, which no digit of the length is. -/
def readLabelledRun (entry : String) : Nat × String :=
  let digits := entry.toList.takeWhile fun c => !c.isUpper
  let label := entry.toList.dropWhile fun c => !c.isUpper
  (Unicode.hexNumber (String.ofList digits), String.ofList label)

/-- The ranges of the runs whose label is one of `labels`. -/
def rangesOfLabelledRuns (labels : List String) (start : Nat) : List (Nat × String) → List CharRange
  | [] => []
  | (length, label) :: rest =>
    let more := rangesOfLabelledRuns labels (start + length) rest
    if labels.contains label then ⟨start, start + length - 1⟩ :: more else more

def ofLabelledRuns (labels : List String) (table : String) : CharSet :=
  ofRanges (rangesOfLabelledRuns labels 0 ((Unicode.words table).map readLabelledRun))

end CharSet

end ImportBoundary
