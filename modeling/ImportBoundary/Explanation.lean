import ImportBoundary.Check.Basic
import ImportBoundary.Violation

/-!
# Explanations

What the checks and the codes of findings mean, and what to do about a finding.

Checks and codes share one table, and an explanation is looked up by the name of either.
-/

namespace ImportBoundary

/-- What a check or code means. -/
structure Explanation where
  title : String
  description : String
  remediation : String
  /-- An example that leads to a finding. -/
  before : String
  /-- The example when it has been mended. -/
  after : String
deriving DecidableEq, Repr

namespace Explanation

def textOf (lines : List String) : String := "\n".intercalate lines

def modules : Explanation where
  title := "Module Boundaries"
  description := textOf [
    "Enforces the contract declared for each module in `[[modules]]`.",
    "",
    "A module is every file under its `path`. Imports crossing a module boundary must:",
    "- target a file listed in the destination module's `interface`",
    "- come from a module that lists the destination in `dependencies`",
    "- for destinations outside every module, match the source module's `externals`",
    "",
    "Files inside a submodule follow the submodule's rules instead of the parent's.",
    "A matching `exceptions` entry allows the import regardless of the other rules."]
  remediation := textOf [
    "Import the destination module through its public interface, declare the",
    "dependency on the importing module, or add the external target to `externals`.",
    "Use `exceptions` only for known, tracked debt."]
  before := textOf [
    "[[modules]]",
    "path = \"src/billing\"",
    "interface = \"src/billing/index\"",
    "",
    "[[modules]]",
    "path = \"src/ui\"",
    "# src/ui/cart.ts imports src/billing/invoice.ts"]
  after := textOf [
    "[[modules]]",
    "path = \"src/billing\"",
    "interface = \"src/billing/index\"",
    "",
    "[[modules]]",
    "path = \"src/ui\"",
    "dependencies = [\"src/billing\"]",
    "# src/ui/cart.ts imports src/billing/index.ts"]

def layers : Explanation where
  title := "Layer Rules"
  description := textOf [
    "Restricts which paths the files of a layer may import.",
    "",
    "Each `[[layers]]` rule applies to files matching `from` and lists the patterns",
    "those files may import in `to` (minus `except`). With `allow_children` (the",
    "default) a file may always import files below its own directory and files of",
    "its own layer."]
  remediation := textOf [
    "Move the import behind a layer the source is allowed to depend on, or widen",
    "the rule's `to` list if the dependency is intended."]
  before := textOf [
    "[[layers]]",
    "from = \"src/domain\"",
    "to = [\"src/domain\"]",
    "# src/domain/order.ts imports src/ui/button.ts"]
  after := textOf [
    "[[layers]]",
    "from = \"src/domain\"",
    "to = [\"src/domain\", \"src/shared\"]",
    "# src/domain/order.ts imports src/shared/money.ts"]

def bounded : Explanation where
  title := "Bounded Imports"
  description := textOf [
    "Rejects import strings containing any of the configured substrings.",
    "",
    "Typical use is forbidding deep relative climbs such as `../../../`, which tie a",
    "file to the exact directory layout around it."]
  remediation := "Rewrite the import through an alias or a shorter relative path."
  before := textOf [
    "bounded = [\"../../../\"]",
    "# import \x7b x \x7d from \"../../../shared/x\""]
  after := textOf [
    "bounded = [\"../../../\"]",
    "# import \x7b x \x7d from \"src/shared/x\""]

def privateImplementation : Explanation where
  title := "Private Implementation Import"
  description := textOf [
    "The imported file belongs to a module but is not part of that module's",
    "`interface`. Only interface files may be imported from outside the module."]
  remediation := textOf [
    "Import the symbol through the module's interface file, or add the file to the",
    "module's `interface` if it is meant to be public."]
  before := textOf [
    "# src/ui/cart.ts",
    "import \x7b total \x7d from \"../billing/internal/total\""]
  after := textOf [
    "# src/ui/cart.ts",
    "import \x7b total \x7d from \"../billing/index\""]

def notADependency : Explanation where
  title := "Undeclared Module Dependency"
  description := textOf [
    "The importing file's module does not list the imported module in its",
    "`dependencies`, or the dependency is restricted with `on` and the imported",
    "path matches none of those patterns."]
  remediation := "Add the destination module path to `dependencies` of the importing module."
  before := textOf [
    "[[modules]]",
    "path = \"src/ui\"",
    "dependencies = []"]
  after := textOf [
    "[[modules]]",
    "path = \"src/ui\"",
    "dependencies = [\"src/billing\"]"]

def invalidExternal : Explanation where
  title := "External Import Not Allowed"
  description := textOf [
    "The importing module declares an explicit `externals` list and the imported",
    "path belongs to no module and matches none of the listed patterns.",
    "",
    "Omitting `externals` allows every external import; `externals = []` allows none."]
  remediation := textOf [
    "Add a pattern matching the import to `externals`, or route the import through a",
    "module that is allowed to use it."]
  before := textOf [
    "[[modules]]",
    "path = \"src/domain\"",
    "externals = []"]
  after := textOf [
    "[[modules]]",
    "path = \"src/domain\"",
    "externals = [\"^decimal\\\\.js$\"]"]

def layerViolation : Explanation where
  title := "Layer Violation"
  description := textOf [
    "A file matched by a layer rule imports a path outside the rule's `to` list (or",
    "inside its `except` list)."]
  remediation := textOf [
    "Depend on an allowed layer instead, or update the rule if the dependency is",
    "intended."]
  before := layers.before
  after := layers.after

def boundedImport : Explanation where
  title := "Bounded Import"
  description := "The import string contains a substring listed in `bounded`."
  remediation := bounded.remediation
  before := bounded.before
  after := bounded.after

def codes : List String :=
  [ViolationKind.privateImplementation.code, ViolationKind.notADependency.code,
    ViolationKind.invalidExternal.code, Check.layerCode, Check.boundedCode]

def all : List (String × Explanation) :=
  [(Check.modules.name, modules), (Check.layers.name, layers), (Check.bounded.name, bounded),
    (ViolationKind.privateImplementation.code, privateImplementation),
    (ViolationKind.notADependency.code, notADependency),
    (ViolationKind.invalidExternal.code, invalidExternal),
    (Check.layerCode, layerViolation), (Check.boundedCode, boundedImport)]

def ofName? (name : String) : Option Explanation := all.lookup name

/-- A line of a character under a heading, as long as the heading is in UTF-8. -/
def underline (c : Char) (heading : String) : String :=
  String.ofList (List.replicate heading.utf8ByteSize c)

/-- An example in a block of its own. -/
def block (label text : String) : String := label ++ ":\n```toml\n" ++ text ++ "\n```\n"

def text (e : Explanation) : String :=
  e.title ++ "\n" ++ underline '=' e.title ++ "\n\n" ++ e.description ++ "\n\n" ++
  "Remediation\n-----------\n" ++ e.remediation ++ "\n\n" ++
  "Examples\n--------\n\n" ++
  block "Before (violation)" e.before ++ "\n" ++ block "After (fixed)" e.after

def listing (names : List String) : String :=
  String.join (names.map fun name => "  - " ++ name ++ "\n")

/-- What is said of a name that has no explanation. -/
def unknownText (name : String) (checks codes : List String) : String :=
  "Unknown check_id or code: " ++ name ++ "\n\nAvailable check_ids:\n" ++ listing checks ++
    "\nAvailable codes:\n" ++ listing codes

end Explanation

end ImportBoundary
