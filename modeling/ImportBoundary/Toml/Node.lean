import ImportBoundary.Json.Basic
import ImportBoundary.Toml.Basic

/-!
# TOML values as nodes

The typed readers work on nodes, and a TOML value is turned into one here. Floats and times have no
counterpart that a configuration asks for: a float is a double that no reader takes for an integer,
and a time is an object whose only name is no field. An integer beyond 64 bits can be skipped but not
kept.
-/

namespace ImportBoundary.Toml

/-- The name of the only member of a time. -/
def timeMember : String := "$time"

/-- An integer as a number of a document, if it fits 64 bits. -/
def number? (i : Int) : Option Json.Number :=
  if -0x8000000000000000 ≤ i && i < UInt64.size then some (.integer i) else none

mutual

def Value.toNode : Value → Json.Node
  | .string text => .string (some text)
  | .integer i => .number (number? i)
  | .float _ => .number (some (.double ⟨false, 0⟩))
  | .bool b => .bool b
  | .dateTime text => .object [(some timeMember, .string (some text))]
  | .array items => .array (itemNodes items)
  | .table _ members => .object (memberNodes members)
  | .tables elements => .array (elementNodes elements).reverse

def itemNodes : List Value → List Json.Node
  | [] => []
  | item :: rest => item.toNode :: itemNodes rest

def memberNodes : List (String × Value) → List (Option String × Json.Node)
  | [] => []
  | (name, value) :: rest => (some name, value.toNode) :: memberNodes rest

def elementNodes : List (List (String × Value)) → List Json.Node
  | [] => []
  | members :: rest => .object (memberNodes members) :: elementNodes rest

end

def Members.toNode (members : Members) : Json.Node := .object (memberNodes members)

end ImportBoundary.Toml
