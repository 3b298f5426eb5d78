import ImportBoundary.Cache
import ImportBoundary.Config
import ImportBoundary.Settings.Profile

/-!
# Resolving a configuration

The settings of a configuration start from a profile and take over what the configuration says, and
what the caller says above all. The first fault decides: the profile, the checks in the order of
their names, the failure level, the bounded texts, and then the patterns of modules and layers,
which are compiled here, so that no import is looked at before the rules are known to be good.

Resolving puts what it has compiled into a cache and hands the cache on. The settings name the two
objects that were compiled, so an evaluation under these settings finds them there.
-/

namespace ImportBoundary

/-- What a caller may decide in place of the configuration. -/
structure Overrides where
  profile : Option String := none
  maxFindings : Option Nat := none
deriving DecidableEq, Repr

inductive ConfigError where
  | unknownProfile (name : String)
  | unknownCheck (name : String)
  | unknownSeverity (check severity : String)
  | unknownFailOn (level : String)
  | emptyBound
  | invalidPattern (error : CompileError)
deriving DecidableEq, Repr

namespace ConfigError

/-- The part of the configuration in which a pattern stands. -/
def sectionOf (e : CompileError) : String :=
  match e.owner with
  | .module _ => "[[modules]]"
  | .layer _ => "[[layers]]"

def chain : ConfigError → List String
  | unknownProfile name => ["unknown profile: " ++ name ++ " (expected strict|warn|compat)"]
  | unknownCheck name =>
    ["unknown check id in [checks]: " ++ name ++ " (known: " ++
      ", ".intercalate Check.names ++ ")"]
  | unknownSeverity check severity =>
    ["invalid severity for " ++ check,
      "unknown severity: " ++ severity ++ " (expected info|warning|error)"]
  | unknownFailOn level => ["unknown fail_on: " ++ level ++ " (expected error|warning)"]
  | emptyBound => ["invalid bounded entry: empty string would reject every import"]
  | invalidPattern e =>
    ["invalid " ++ sectionOf e ++ " configuration", e.summary, e.error.message]

end ConfigError

def Severity.ofWord? (word : String) : Option Severity :=
  if word = "warn" then some .warning else Severity.ofName? word

def FailOn.ofWord? (word : String) : Option FailOn :=
  if word = "error" then some .error
  else if word = "warning" ∨ word = "warn" then some .warning
  else none

/-- The policy of a check under what a configuration says about it. -/
def CheckChoice.apply (choice : CheckChoice) (check : String) (policy : Policy) :
    Except ConfigError Policy :=
  let enabled := choice.enabled.getD policy.enabled
  match choice.severity with
  | none => .ok ⟨enabled, policy.severity⟩
  | some word =>
    match Severity.ofWord? word with
    | some severity => .ok ⟨enabled, severity⟩
    | none => .error (.unknownSeverity check word)

def applyChoices (policies : NameMap Policy) :
    List (String × CheckChoice) → Except ConfigError (NameMap Policy)
  | [] => .ok policies
  | (check, choice) :: rest =>
    if Check.names.contains check then do
      let policy ← choice.apply check ((policies.get? check).getD .disabled)
      applyChoices (policies.insert check policy) rest
    else .error (.unknownCheck check)

namespace Config

def chosenProfile (c : Config) (o : Overrides) : Except ConfigError Profile :=
  let name := (o.profile.or c.profile).getD Profile.strict.name
  match Profile.ofName? name with
  | some p => .ok p
  | none => .error (.unknownProfile name)

def chosenFailOn (c : Config) (default : FailOn) : Except ConfigError FailOn :=
  match c.failOn with
  | none => .ok default
  | some word =>
    match FailOn.ofWord? word with
    | some level => .ok level
    | none => .error (.unknownFailOn word)

/-- The settings of a configuration whose modules and layers are given as objects, before their
patterns are compiled. -/
def settings (c : Config) (o : Overrides) (modules : Shared (List DeclaredModule))
    (layers : Shared (List LayerDeclaration)) : Except ConfigError Settings := do
  let profile ← c.chosenProfile o
  let policies ← applyChoices profile.policies c.checks.entries
  let failOn ← c.chosenFailOn profile.failOn
  if c.bounded.any String.isEmpty then .error .emptyBound
  return {
    profile := profile.name
    failOn
    maxFindings := (o.maxFindings.or c.maxFindings).getD profile.maxFindings
    policies
    modules
    layers
    bounded := c.bounded }

end Config

/-- The settings of a configuration, with a cache that holds their compiled rules. -/
structure Resolved where
  settings : Settings
  cache : Cache

def Config.resolve (compile : PatternCompiler) (c : Config) (o : Overrides) :
    Supply (Except ConfigError Resolved) := do
  -- Resolving the same configuration again gives new objects.
  let modules ← Shared.make c.modules
  let layers ← Shared.make c.layers
  match c.settings o modules layers with
  | .error e => return .error e
  | .ok settings =>
    let (rules, cache) ← Cache.empty.resolve compile settings
    match rules with
    | .error e => return .error (.invalidPattern e)
    | .ok _ => return .ok ⟨settings, cache⟩

end ImportBoundary
