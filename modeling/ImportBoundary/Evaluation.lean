import ImportBoundary.Check.Finding
import ImportBoundary.Finding.Order

/-!
# The evaluation of a graph

`evaluate` runs the checks on every import of a graph. The findings are put in order and cut off
behind the greatest number that the settings allow; because the grave ones come first, the verdict
on the findings that are left is the verdict on all of them, unless nothing is left.

Figures are cut to 32 bits where the summary is made, and nowhere else: the verdict and the note about
truncation are worked out from the lists themselves. The counts are those of the findings that are
left.
-/

namespace ImportBoundary

structure Summary where
  profile : String
  filesScanned : Nat := 0
  edgesScanned : Nat := 0
  /-- The declared modules, nested ones included. -/
  modulesDeclared : Nat := 0
  findingsTotal : Nat := 0
  findingsEmitted : Nat := 0
  truncatedReason : Option String := none
deriving DecidableEq, Repr

/-- Figures are 32 bits wide; of a greater number the low bits are kept. -/
def Summary.figure (n : Nat) : Nat := n % UInt32.size

/-- The number of findings by check, and the number of errors. -/
structure FindingCounts where
  byCheck : NameMap Nat
  errors : Nat

namespace FindingCounts

/-- Counts one more finding of a check. -/
def addTo (counts : NameMap Nat) (f : Finding) : NameMap Nat :=
  counts.insert f.check ((counts.get? f.check).getD 0 + 1)

def ofFindings (findings : List Finding) : FindingCounts where
  byCheck := findings.foldl addTo .empty
  errors := findings.countP fun f => f.severity = .error

def ofCheck (counts : FindingCounts) (check : String) : Nat := (counts.byCheck.get? check).getD 0

end FindingCounts

/-- The verdict on findings: an error fails; a warning fails or warns, as the settings say. -/
def Verdict.ofFindings (findings : List Finding) (failOn : FailOn) : Verdict :=
  if findings.any fun f => f.severity = .error then .fail
  else if findings.any fun f => f.severity = .warning then
    match failOn with
    | .warning => .fail
    | .error => .warn
  else .pass

structure Evaluation where
  verdict : Verdict
  findings : List Finding
  summary : Summary
  counts : FindingCounts

/-- All findings of a graph, in the order of its records. -/
def ImportGraph.findings (g : ImportGraph) (s : Settings) (rules : CompiledRules) (root : Path) :
    List Finding :=
  g.records.flatMap fun record => record.findings s rules root

def truncationNote (total limit : Nat) : Option String :=
  if limit < total then some ("findings truncated to max_findings=" ++ toString limit) else none

/-- Evaluates a graph under rules that are compiled already. -/
def evaluateWith (s : Settings) (rules : CompiledRules) (root : Path) (g : ImportGraph) :
    Evaluation :=
  let all := Finding.arrange (g.findings s rules root)
  -- The verdict and the counts are those of what is reported, and the total is that of all findings.
  let emitted := all.take s.maxFindings
  { verdict := .ofFindings emitted s.failOn
    findings := emitted
    summary := {
      profile := s.profile
      filesScanned := Summary.figure g.files.length
      edgesScanned := Summary.figure g.records.length
      modulesDeclared := Summary.figure (countModules s.modules.value)
      findingsTotal := Summary.figure all.length
      findingsEmitted := Summary.figure emitted.length
      truncatedReason := truncationNote all.length s.maxFindings }
    counts := .ofFindings emitted }

/-- Evaluates a graph. The rules come from the cache, which compiles them if it has to. -/
def evaluate (compile : PatternCompiler) (g : ImportGraph) (root : Path) (s : Settings)
    (cache : Cache) : Supply (Except CompileError Evaluation × Cache) := do
  let (rules, cache) ← cache.resolve compile s
  return (rules.map fun rules => evaluateWith s rules root g, cache)

end ImportBoundary
