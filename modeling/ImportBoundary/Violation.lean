import ImportBoundary.Edge
import ImportBoundary.Template

/-!
# Violations of module boundaries

The three ways in which an import can break the rules of a module, and their messages. Downstream
tooling compares these texts, so they are exact.
-/

namespace ImportBoundary

/-- The ways to break a module's rules. -/
inductive ViolationKind where
  | privateImplementation
  | notADependency
  | invalidExternal
deriving DecidableEq, Repr

namespace ViolationKind

def code : ViolationKind → String
  | privateImplementation => "private_implementation"
  | notADependency => "not_a_dependency"
  | invalidExternal => "invalid_external"

def ofCode? (code : String) : Option ViolationKind :=
  [privateImplementation, notADependency, invalidExternal].find? fun kind => kind.code = code

/-- The first line of every message, and the empty line behind it. -/
def opening : String :=
  "Module abstraction violation: '\x7bfrom\x7d' cannot import '\x7bto\x7d'.\n\n"

def template : ViolationKind → String
  | privateImplementation => opening ++
    "'\x7bto\x7d' is part of module '\x7btoModule\x7d' but not listed in the module public\n" ++
    "interface (i.e. is an implementation detail)."
  | notADependency => opening ++
    "'\x7btoModule\x7d' is not listed as a valid dependency of '\x7bfromModule\x7d'."
  | invalidExternal => opening ++
    "'\x7bfromModule\x7d' has an explicit list of allowed external imports and '\x7bto\x7d' is not\n" ++
    "in this list."

/-- The message of a kind. A note of the module that is blamed follows behind an empty line. -/
def format (kind : ViolationKind) (values : Template.Values) (note : Option String) : String :=
  let text := Template.fill kind.template values
  match note with
  | none => text
  | some note => if note.isEmpty then text else text ++ "\n\n" ++ note

end ViolationKind

structure Violation where
  kind : ViolationKind
  sourceModule : Option Path
  targetModule : Option Path
  /-- The note of the module that is blamed. -/
  note : Option String
deriving DecidableEq, Repr

/-- The message of a violation for an edge, with the edge's texts unchanged. -/
def Violation.message (v : Violation) (e : Edge) : String :=
  v.kind.format {
    source := some e.file
    target := some e.importText
    sourceModule := v.sourceModule.map Path.text
    targetModule := v.targetModule.map Path.text } v.note

end ImportBoundary
