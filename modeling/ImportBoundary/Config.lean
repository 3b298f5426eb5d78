import ImportBoundary.Json.Decode
import ImportBoundary.Layer.Rule
import ImportBoundary.Module.Codec
import ImportBoundary.NameMap
import ImportBoundary.Toml.Node
import ImportBoundary.Toml.Parser

/-!
# Configurations

A configuration as its author writes it. It is permissive: whatever it leaves out comes from a
profile, and its words are checked only when it is resolved.

A configuration is read from TOML by way of a node, so that the same decoder serves both formats.
What it leaves out is not written, except for the choices about checks, which are always there.
-/

namespace ImportBoundary

open Json (Decoder Node Row ifAny ifSome)

/-- What a configuration says about one check. -/
structure CheckChoice where
  enabled : Option Bool := none
  severity : Option String := none
deriving DecidableEq, Repr

structure Config where
  schema : Option String := none
  profile : Option String := none
  failOn : Option String := none
  maxFindings : Option Nat := none
  /-- Texts that no import may hold. -/
  bounded : List String := []
  /-- What is said about checks, by their names. -/
  checks : NameMap CheckChoice := .empty
  modules : List DeclaredModule := []
  layers : List LayerDeclaration := []

/-! ### JSON and TOML

A type with a codec has three things: the names of its fields, a decoder that asks for them in their
order, and an encoder. A field that may be left out is either `defaulted`, with what it then stands
for, or written by `ifSome` and `ifAny` only if there is something to write.
-/

namespace LayerDeclaration

def fields : List String := ["from", "to", "except", "allow_children", "message"]

def decode : Decoder LayerDeclaration
  | 0, _ => none
  | depth + 1, node => do
    let row ← Row.ofNode? fields node
    let source ← row.defaulted "from" none (Decoder.nullable Decoder.string depth)
    let target ← row.required "to" (Decoder.list Decoder.string depth)
    let except ← row.defaulted "except" [] (Decoder.list Decoder.string depth)
    let allowChildren ← row.defaulted "allow_children" none (Decoder.nullable Decoder.bool depth)
    let message ← row.defaulted "message" none (Decoder.nullable Decoder.string depth)
    return ⟨source, target, except, allowChildren, message⟩

def encode (d : LayerDeclaration) : Json :=
  .object <|
    ifSome "from" .string d.source ++
    [("to", .array (d.target.map .string))] ++
    ifAny "except" .string d.except ++
    ifSome "allow_children" .bool d.allowChildren ++
    ifSome "message" .string d.message

end LayerDeclaration

namespace CheckChoice

def fields : List String := ["enabled", "severity"]

def decode : Decoder CheckChoice
  | 0, _ => none
  | depth + 1, node => do
    let row ← Row.ofNode? fields node
    let enabled ← row.defaulted "enabled" none (Decoder.nullable Decoder.bool depth)
    let severity ← row.defaulted "severity" none (Decoder.nullable Decoder.string depth)
    return ⟨enabled, severity⟩

def encode (c : CheckChoice) : Json :=
  .object (ifSome "enabled" .bool c.enabled ++ ifSome "severity" .string c.severity)

end CheckChoice

namespace Config

def fields : List String :=
  ["schema", "profile", "fail_on", "max_findings", "bounded", "checks", "modules", "layers"]

def decode : Decoder Config
  | 0, _ => none
  | depth + 1, node => do
    let row ← Row.ofNode? fields node
    let schema ← row.defaulted "schema" none (Decoder.nullable Decoder.string depth)
    let profile ← row.defaulted "profile" none (Decoder.nullable Decoder.string depth)
    let failOn ← row.defaulted "fail_on" none (Decoder.nullable Decoder.string depth)
    let maxFindings ← row.defaulted "max_findings" none (Decoder.nullable Decoder.nat32 depth)
    let bounded ← row.defaulted "bounded" [] (Decoder.list Decoder.string depth)
    let checks ← row.defaulted "checks" .empty (Decoder.map CheckChoice.decode depth)
    let modules ← row.defaulted "modules" [] (Decoder.list DeclaredModule.decode depth)
    let layers ← row.defaulted "layers" [] (Decoder.list LayerDeclaration.decode depth)
    return { schema, profile, failOn, maxFindings, bounded, checks, modules, layers }

def encode (c : Config) : Json :=
  .object <|
    ifSome "schema" .string c.schema ++
    ifSome "profile" .string c.profile ++
    ifSome "fail_on" .string c.failOn ++
    ifSome "max_findings" Json.ofNat c.maxFindings ++
    ifAny "bounded" .string c.bounded ++
    [("checks", .object (c.checks.map CheckChoice.encode).entries)] ++
    ifAny "modules" DeclaredModule.encode c.modules ++
    ifAny "layers" LayerDeclaration.encode c.layers

inductive ReadError where
  | notToml (fault : Toml.Fault)
  | wrongType
deriving DecidableEq, Repr

def ReadError.message : ReadError → String
  | notToml fault => fault.message
  | wrongType => "invalid type"

def parse (text : String) : Except ReadError Config := do
  let members ← (Toml.parse text).mapError .notToml
  match decode.unbounded? members.toNode with
  | some c => .ok c
  | none => .error .wrongType

end Config

end ImportBoundary
