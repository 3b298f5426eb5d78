import ImportBoundary.Finding.Basic

/-!
# The order of findings

Findings are reported in the order of their sort keys: the grave ones first, then by path, line,
check, code and message. Findings with the same key stay in the order in which they were made.

A key compares its parts one after another, and each part in the way of its own: severities by rank,
texts by their characters, lines as numbers. What is missing gets a place of its own, behind all lines
and among the paths.
-/

namespace ImportBoundary.Finding

/-- The line of a finding without one comes behind all others. -/
def lastLine : Nat := UInt32.size - 1

/-- The path under which findings without a location are sorted. -/
def nowhere : String := "~"

/-- What decides a finding's place. -/
structure SortKey where
  severity : Severity
  path : String
  line : Nat
  check : String
  code : String
  message : String
deriving DecidableEq, Repr

def sortKey (f : Finding) : SortKey where
  severity := f.severity
  path := (f.location.map fun l => l.path.text).getD nowhere
  line := (f.location.bind Location.line).getD lastLine
  check := f.check
  code := f.code
  message := f.message

def SortKey.order (a b : SortKey) : Ordering :=
  (compare a.severity.rank b.severity.rank).then <|
  (Text.order a.path b.path).then <|
  (compare a.line b.line).then <|
  (Text.order a.check b.check).then <|
  (Text.order a.code b.code).then <|
  Text.order a.message b.message

def mayPrecede (a b : Finding) : Bool := (a.sortKey.order b.sortKey).isLE

/-- Findings in order. -/
def arrange (findings : List Finding) : List Finding := findings.mergeSort mayPrecede

end ImportBoundary.Finding
