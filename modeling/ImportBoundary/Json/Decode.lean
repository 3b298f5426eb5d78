import ImportBoundary.Json.Parser

/-!
# Reading typed values

A decoder reads a value of a type from a document, or finds that the document does not fit. The
number it takes bounds how many arrays and objects may be open inside each other in what it keeps;
what it skips may nest as it likes. A record is an object with one member for each field, or an array
of the fields in their order (`Row`). Unknown members are skipped, a repeated field does not fit.
-/

namespace ImportBoundary.Json

/-- Reads a value of a type, if the document fits. -/
abbrev Decoder (α : Type) := Nat → Node → Option α

namespace Decoder

variable {α : Type}

def string : Decoder String
  | _, .string s => s
  | _, _ => none

def bool : Decoder Bool
  | _, .bool b => some b
  | _, _ => none

def maxNat32 : Nat := UInt32.size - 1

/-- A natural number of 32 bits, written as an integer. -/
def nat32 : Decoder Nat
  | _, .number (some (.integer (.ofNat n))) => if n ≤ maxNat32 then some n else none
  | _, _ => none

/-- The items of an array, whose decoder may use that their bound is smaller. -/
def items (depth : Nat) (item : (d : Nat) → d < depth → Node → Option α) : Node → Option (List α)
  | .array nodes =>
    match depth, item with
    | 0, _ => none
    | d + 1, item => nodes.mapM (item d (Nat.lt_succ_self d))
  | _ => none

def list (item : Decoder α) : Decoder (List α) := fun depth => items depth fun d _ => item d

def nullable (value : Decoder α) : Decoder (Option α)
  | _, .null => some none
  | depth, node => (value depth node).map some

/-- A free-form value. -/
def free : Decoder Json := Node.toJson?

/-- One of several words: as a string, or as the only name of an object with the value null. -/
def word (meaning : String → Option α) : Decoder α
  | _, .string s => s.bind meaning
  | _ + 1, .object [(name, .null)] => name.bind meaning
  | _, _ => none

/-- An object whose members are values of one type; of members with the same name the last one
stays. -/
def map (value : Decoder α) : Decoder (NameMap α)
  | depth + 1, .object members => do
    let entries ← members.mapM fun (name, node) => do
      let name ← name
      let value ← value depth node
      return (name, value)
    return NameMap.ofList entries
  | _, _ => none

/-- A node in which everything can be kept, so that it can be read more than once. -/
def kept (value : Decoder α) : Decoder α := fun depth node =>
  if (node.toJson? depth).isSome then value depth node else none

/-- Reads a node that may nest as it likes. -/
def unbounded? (value : Decoder α) (node : Node) : Option α := value node.height node

/-- Reads a whole text. -/
def parse? (value : Decoder α) (text : String) : Option α :=
  (Node.parse? text).bind (value Node.maxDepth)

end Decoder

/-! ### Records

A record is read in two steps. `Row.ofNode?` finds out which fields the document gives, and refuses
what is no record or gives a field twice. Then the fields are asked for one by one, and what a missing
field means is up to who asks.
-/

/-- The fields of a record that a document gives. -/
structure Row where
  fields : List (String × Node)
  /-- Whether the fields are the items of an array. -/
  positional : Bool
deriving Repr

namespace Row

variable {α : Type}

/-- The members with usable names; nothing if a name is not usable. -/
def named? : List (Option String × Node) → Option (List (String × Node))
  | [] => some []
  | (none, _) :: _ => none
  | (some name, node) :: rest => (named? rest).map ((name, node) :: ·)

def distinct : List (String × Node) → Bool
  | [] => true
  | (name, _) :: rest => (rest.lookup name).isNone && distinct rest

def ofMembers? (names : List String) (members : List (Option String × Node)) : Option Row := do
  let members ← named? members
  let fields := members.filter fun (name, _) => names.contains name
  if distinct fields then some ⟨fields, false⟩ else none

/-- The fields of an object or array. -/
def ofNode? (names : List String) : Node → Option Row
  | .object members => ofMembers? names members
  | .array items => if items.length ≤ names.length then some ⟨names.zip items, true⟩ else none
  | _ => none

def required (row : Row) (name : String) (value : Node → Option α) : Option α :=
  (row.fields.lookup name).bind value

/-- A field that has a value when it is left out. -/
def defaulted (row : Row) (name : String) (default : α) (value : Node → Option α) : Option α :=
  match row.fields.lookup name with
  | none => some default
  | some node => value node

/-- A field without a value when it is left out of an object. An array may not leave it out. -/
def optional (row : Row) (name : String) (value : Node → Option (Option α)) : Option (Option α) :=
  if row.positional then row.required name value else row.defaulted name none value

end Row

/-! ### Writing records

The members of an object are written in the order of its fields, and the members that are left out
leave no trace.
-/

/-- A member that is written only if it has a value. -/
def ifSome {α : Type} (name : String) (value : α → Json) : Option α → List (String × Json)
  | none => []
  | some a => [(name, value a)]

/-- A member that is written only if the list has items. -/
def ifAny {α : Type} (name : String) (value : α → Json) (items : List α) : List (String × Json) :=
  if items.isEmpty then [] else [(name, .array (items.map value))]

end ImportBoundary.Json
