import ImportBoundary.Json.Basic

/-!
# The schema of configurations

A JSON schema for editors: the fields of a configuration, their types and what they are for.
-/

namespace ImportBoundary.Config.Schema

abbrev Members := List (String × Json)

/-! ### Building blocks

A schema is kept as the list of its members, so that more of them can be put in front, such as a
description.
-/

def type (name : String) : Members := [("type", .string name)]

/-- A value of a basic type, or null. -/
def nullable (name : String) : Members := [("type", .array [.string name, .string "null"])]

def items (item : Members) : Members := [("items", .object item)]

def list (item : Members) : Members := type "array" ++ items item

def texts : Members := list (type "string")

/-- A value of one of several schemas. -/
def anyOf (choices : List Members) : Members := [("anyOf", .array (choices.map .object))]

/-- A value of a schema with a name. -/
def reference (name : String) : Members := [("$ref", .string ("#/$defs/" ++ name))]

/-- A schema with a description. -/
def described (text : String) (schema : Members) : Members := ("description", .string text) :: schema

def named (schemas : List (String × Members)) : Json :=
  .object (schemas.map fun (name, schema) => (name, .object schema))

/-- An object with fields, of which some are required. -/
def record (properties : List (String × Members)) (required : List String) : Members :=
  type "object" ++ [("properties", named properties)] ++
    if required.isEmpty then [] else [("required", .array (required.map .string))]

/-! ### The schemas

One for each kind of value in a configuration. Modules hold modules, so a module is referred to by its
name.
-/

def checkChoice : Members :=
  record [
    ("enabled", described "Override preset enable/disable." (nullable "boolean")),
    ("severity",
      described "Override preset severity: `info`, `warning`, `error`." (nullable "string"))]
    []

def dependency : Members :=
  anyOf [
    described "Any file of the target module." (type "string"),
    described "Only target files matching one of `on` (any file when `on` is empty)." <|
      record [
        ("on", type "array" ++ [("default", .array [])] ++ items (type "string")),
        ("path", type "string")]
        ["path"]]

def boundaryException : Members :=
  record [("from", type "string"), ("to", type "string")] ["from", "to"]

def interface : Members := anyOf [type "string", texts]

def layer : Members :=
  described "One `[[layers]]` entry as written in configuration." <|
    record [
      ("allow_children",
        described ("Allow imports below the file's own directory and within the layer. " ++
          "Defaults to true.") (nullable "boolean")),
      ("except", described "Paths rejected even when they match `to`." texts),
      ("from",
        described "Files the rule applies to. Absent (or `.*`) means every file."
          (nullable "string")),
      ("message", nullable "string"),
      ("to", described "Paths the layer may import." texts)]
      ["to"]

def module : Members :=
  described "One `[[modules]]` entry as written in configuration." <|
    record [
      ("dependencies",
        described "Modules this module may import from." (list (reference "DependencyOption"))),
      ("exceptions", list (reference "ExceptionOption")),
      ("externals",
        described "Patterns for imports outside every module. Absent allows all of them."
          (nullable "array" ++ items (type "string"))),
      ("interface",
        described "Patterns for the files other modules may import. Absent means none."
          (anyOf [reference "InterfaceOption", type "null"])),
      ("message",
        described "Appended to every violation blamed on this module." (nullable "string")),
      ("path",
        described "Repo-relative directory owning the module (`src/billing`)." (type "string")),
      ("submodules", list (reference "ModuleOption")),
      ("techdebt",
        described "Deprecated alias of `exceptions`." (list (reference "ExceptionOption")))]
      ["path"]

/-- The fields of a configuration. -/
def properties : List (String × Members) := [
  ("bounded",
    described "Substrings no import string may contain (`imports.bounded`)." texts),
  ("checks",
    described "Map of check_id -> config." <|
      type "object" ++
        [("additionalProperties", .object (reference "CheckConfig")), ("default", .object [])]),
  ("fail_on",
    described "When to fail the check: `error` (default) or `warning`." (nullable "string")),
  ("layers", described "Layer rules (`imports.layers`)." (list (reference "LayerOption"))),
  ("max_findings",
    described "How many findings to emit before truncating the list." <|
      nullable "integer" ++ [("format", .string "uint32"), ("minimum", .ofNat 0)]),
  ("modules",
    described "Top-level module declarations (`imports.modules`)." (list (reference "ModuleOption"))),
  ("profile",
    described "Preset profile: `strict` (default), `warn` or `compat`." (nullable "string")),
  ("schema",
    described "Optional schema string for tooling (`modguard.config.v1`)." (nullable "string"))]

def definitions : List (String × Members) := [
  ("CheckConfig", checkChoice),
  ("DependencyOption", dependency),
  ("ExceptionOption", boundaryException),
  ("InterfaceOption", interface),
  ("LayerOption", layer),
  ("ModuleOption", module)]

/-- The dialect in which the schema is written. -/
def dialect : String := "https:" ++ "//json-schema.org/draft/2020-12/schema"

def purpose : String :=
  "`modguard.toml` schema v1.\n\n" ++
  "This is a *user-facing* config model: it is intentionally permissive so forward-compat is easy."

/-- The schema of a configuration. -/
def document : Json :=
  .object <|
    [("$schema", .string dialect), ("title", .string "ModguardConfigV1")] ++
    described purpose (record properties []) ++
    [("$defs", named definitions)]

end ImportBoundary.Config.Schema
