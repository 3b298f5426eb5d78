import ImportBoundary.Check.Basic
import ImportBoundary.Finding.Basic
import ImportBoundary.Layer.Rule
import ImportBoundary.Memo
import ImportBoundary.Module.Declaration
import ImportBoundary.NameMap

/-!
# Settings

The settings are what a configuration comes to when everything is decided: which checks run and how
grave their findings are, what makes a run fail, and the rules.

Rules are not compiled yet, and they are objects (`Shared`), so that compiled rules can be kept for
them. Policies stand under the names of checks.
-/

namespace ImportBoundary

/-- The least severity that makes a run fail. -/
inductive FailOn where
  | error
  | warning
deriving DecidableEq, Repr

def FailOn.name : FailOn → String
  | error => "error"
  | warning => "warning"

/-- Whether a check runs, and how grave its findings are. -/
structure Policy where
  enabled : Bool
  severity : Severity
deriving DecidableEq, Repr

def Policy.active (severity : Severity) : Policy := ⟨true, severity⟩

def Policy.disabled : Policy := ⟨false, .info⟩

/-- Everything that decides the outcome of a run, except for the imports. -/
structure Settings where
  profile : String
  failOn : FailOn
  /-- The number of findings that are reported. -/
  maxFindings : Nat
  policies : NameMap Policy
  modules : Shared (List DeclaredModule)
  layers : Shared (List LayerDeclaration)
  /-- Texts that no import may hold. -/
  bounded : List String

/-- The policy of a check, if it runs. -/
def Settings.policy? (s : Settings) (check : String) : Option Policy :=
  (s.policies.get? check).filter Policy.enabled

end ImportBoundary
