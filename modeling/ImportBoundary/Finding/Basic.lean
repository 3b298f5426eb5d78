import ImportBoundary.Json.Basic
import ImportBoundary.Path.Basic

/-!
# Findings

A finding is one thing that a check has to say about an import, or the tool about itself. The
verdict sums a list of findings up.

A finding names its check and its code as texts, since findings are also read from reports that other
versions have written.
-/

namespace ImportBoundary

inductive Severity where
  | info
  | warning
  | error
deriving DecidableEq, Repr

namespace Severity

def name : Severity → String
  | info => "info"
  | warning => "warning"
  | error => "error"

def ofName? (name : String) : Option Severity :=
  [info, warning, error].find? fun s => s.name = name

/-- The grave ones come first. -/
def rank : Severity → Nat
  | error => 0
  | warning => 1
  | info => 2

end Severity

structure Location where
  path : Path
  line : Option Nat
  column : Option Nat
deriving DecidableEq, Repr

structure Finding where
  severity : Severity
  /-- The name of the check that made it. -/
  check : String
  /-- What kind of finding of the check it is. -/
  code : String
  message : String
  location : Option Location
  help : Option String
  url : Option String
  /-- The same for the same kind of finding about the same import. -/
  fingerprint : Option String
  /-- More about it, as the check sees fit. -/
  payload : Json

/-- What a list of findings amounts to. -/
inductive Verdict where
  | pass
  | warn
  | fail
deriving DecidableEq, Repr

namespace Verdict

def name : Verdict → String
  | pass => "pass"
  | warn => "warn"
  | fail => "fail"

def ofName? (name : String) : Option Verdict := [pass, warn, fail].find? fun v => v.name = name

/-- The exit code of a run with a verdict. -/
def exitCode : Verdict → Nat
  | pass => 0
  | warn => 0
  | fail => 2

end Verdict

end ImportBoundary
