import ImportBoundary.Json.Decode
import ImportBoundary.Module.Declaration

/-!
# Declared modules as JSON

How a declared module is written and read. What a declaration leaves out is not written, and the
spellings that mean the same are written as they are declared, so that reading gives back what was
written.

Modules nest in documents as they do in a configuration, and the decoder goes down with the bound on
the depth of the document.
-/

namespace ImportBoundary

open Json (Decoder Node Row ifAny ifSome)

def exceptionFields : List String := ["from", "to"]

def ExceptionDeclaration.decode : Decoder ExceptionDeclaration
  | 0, _ => none
  | depth + 1, node => do
    let row ← Row.ofNode? exceptionFields node
    let source ← row.required "from" (Decoder.string depth)
    let target ← row.required "to" (Decoder.string depth)
    return ⟨source, target⟩

def ExceptionDeclaration.encode (e : ExceptionDeclaration) : Json :=
  .object [("from", .string e.source), ("to", .string e.target)]

/-- Reads an interface: one pattern, or a list of patterns. -/
def InterfaceDeclaration.decode : Decoder InterfaceDeclaration :=
  Decoder.kept fun depth node =>
    match node with
    | .string s => s.map .one
    | node => (Decoder.list Decoder.string depth node).map .many

def InterfaceDeclaration.encode : InterfaceDeclaration → Json
  | one pattern => .string pattern
  | many patterns => .array (patterns.map .string)

/-- Reads a dependency: a path, or an object with a path and patterns. -/
def DependencyDeclaration.decode : Decoder DependencyDeclaration :=
  Decoder.kept fun depth node =>
    match depth, node with
    | _, .string s => s.map .whole
    | depth + 1, .object members => do
      let row ← Row.ofMembers? ["path", "on"] members
      let path ← row.required "path" (Decoder.string depth)
      let only ← row.defaulted "on" [] (Decoder.list Decoder.string depth)
      return .restricted path only
    | _, _ => none

def DependencyDeclaration.encode : DependencyDeclaration → Json
  | whole path => .string path
  | restricted path only => .object [("path", .string path), ("on", .array (only.map .string))]

namespace ModuleDeclaration

/-- The names of a module's fields, the nested modules last. -/
def fields : List String :=
  ["path", "interface", "dependencies", "externals", "exceptions", "techdebt", "message",
    "submodules"]

/-- Reads a module's own fields. -/
def ofRow? (depth : Nat) (row : Row) : Option ModuleDeclaration := do
  let path ← row.required "path" (Decoder.string depth)
  let interface ← row.defaulted "interface" none
    (Decoder.nullable InterfaceDeclaration.decode depth)
  let dependencies ← row.defaulted "dependencies" []
    (Decoder.list DependencyDeclaration.decode depth)
  let externals ← row.defaulted "externals" none
    (Decoder.nullable (Decoder.list Decoder.string) depth)
  let exceptions ← row.defaulted "exceptions" [] (Decoder.list ExceptionDeclaration.decode depth)
  let techdebt ← row.defaulted "techdebt" [] (Decoder.list ExceptionDeclaration.decode depth)
  let note ← row.defaulted "message" none (Decoder.nullable Decoder.string depth)
  return ⟨path, interface, dependencies, externals, exceptions, techdebt, note⟩

def members (d : ModuleDeclaration) : List (String × Json) :=
  [("path", .string d.path)] ++
  ifSome "interface" InterfaceDeclaration.encode d.interface ++
  ifAny "dependencies" DependencyDeclaration.encode d.dependencies ++
  ifSome "externals" (fun patterns => .array (patterns.map .string)) d.externals ++
  ifAny "exceptions" ExceptionDeclaration.encode d.exceptions ++
  ifAny "techdebt" ExceptionDeclaration.encode d.techdebt ++
  ifSome "message" .string d.note

end ModuleDeclaration

namespace DeclaredModule

def decode (depth : Nat) (node : Node) : Option DeclaredModule :=
  match depth with
  | 0 => none
  | depth + 1 => do
    let row ← Row.ofNode? ModuleDeclaration.fields node
    let declaration ← ModuleDeclaration.ofRow? depth row
    let nested ← row.defaulted "submodules" [] (Decoder.items depth fun d _ => decode d)
    return .node declaration nested
termination_by depth

mutual

def encode : DeclaredModule → Json
  | .node d nested =>
    .object (d.members ++ if nested.isEmpty then [] else [("submodules", .array (encodeAll nested))])

def encodeAll : List DeclaredModule → List Json
  | [] => []
  | m :: rest => encode m :: encodeAll rest

end

end DeclaredModule

end ImportBoundary
