import ImportBoundary.Settings.Basic

/-!
# Profiles

A profile is a set of defaults with a name. A configuration starts from one and changes what it has
an opinion on.

All profiles enable all checks and differ in how grave the findings are and what makes a run fail.
-/

namespace ImportBoundary

structure Profile where
  name : String
  failOn : FailOn
  maxFindings : Nat
  policies : NameMap Policy

namespace Profile

def defaultMaxFindings : Nat := 200

/-- Policies for all checks: one severity for module boundaries and one for the other checks. -/
def policiesOf (modules others : Severity) : NameMap Policy :=
  .ofList [(Check.modules.name, .active modules), (Check.layers.name, .active others),
    (Check.bounded.name, .active others)]

/-- Every finding is an error. -/
def strict : Profile := ⟨"strict", .error, defaultMaxFindings, policiesOf .error .error⟩

/-- Every finding is a warning, and warnings fail the run. -/
def warn : Profile := ⟨"warn", .warning, defaultMaxFindings, policiesOf .warning .warning⟩

/-- Module boundaries fail the run; the other checks only warn. -/
def compat : Profile := ⟨"compat", .error, defaultMaxFindings, policiesOf .error .warning⟩

def all : List Profile := [strict, warn, compat]

def ofName? (name : String) : Option Profile := all.find? fun p => p.name = name

end Profile

end ImportBoundary
