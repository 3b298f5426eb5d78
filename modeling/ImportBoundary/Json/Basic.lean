import ImportBoundary.Decimal.Binary64
import ImportBoundary.NameMap

/-!
# JSON values

`Json` is a free-form value. An integer that fits 64 bits, signed or unsigned, stays an integer;
any other number is a double. `Json.Node` is a value as a document writes it, before anyone has
asked for it: members keep their order and their repetitions, and a string that holds half of a
surrogate pair or a number beyond the doubles is present but unusable (`none`). A reader that skips
a node never notices.

A free-form value that was read has its members in the order of their names, and each name once.
Records that are written keep the order of their fields.
-/

namespace ImportBoundary

inductive Json.Number where
  | integer (value : Int)
  | double (value : Binary64)
deriving DecidableEq, Repr

/-- A free-form value. -/
inductive Json where
  | null
  | bool (value : Bool)
  | number (value : Json.Number)
  | string (value : String)
  | array (items : List Json)
  | object (members : List (String × Json))
deriving Repr, Inhabited

/-- A value as a document writes it. -/
inductive Json.Node where
  | null
  | bool (value : Bool)
  | number (value : Option Json.Number)
  | string (value : Option String)
  | array (items : List Json.Node)
  | object (members : List (Option String × Json.Node))
deriving Repr, Inhabited

namespace Json

def ofNat (n : Nat) : Json := .number (.integer n)

/-- The members in the order of their names; of members with the same name the last one stays. -/
def arrange (members : List (String × Json)) : List (String × Json) := (NameMap.ofList members).entries

def sorted (members : List (String × Json)) : Json := .object (arrange members)

/-- The last member of a name. -/
def member? (name : String) : Json → Option Json
  | .object members => members.reverse.lookup name
  | _ => none

def asString? : Json → Option String
  | .string s => some s
  | _ => none

end Json

namespace Json.Node

mutual

def ofJson : Json → Node
  | .null => .null
  | .bool b => .bool b
  | .number n => .number (some n)
  | .string s => .string (some s)
  | .array items => .array (ofItems items)
  | .object members => .object (ofMembers members)

def ofItems : List Json → List Node
  | [] => []
  | item :: rest => ofJson item :: ofItems rest

def ofMembers : List (String × Json) → List (Option String × Node)
  | [] => []
  | (name, value) :: rest => (some name, ofJson value) :: ofMembers rest

end

mutual

/-- The free-form value of a node that is kept. It may hold at most `depth` arrays and objects
inside each other, and everything in it has to be usable. -/
def toJson? (depth : Nat) : Node → Option Json
  | .null => some .null
  | .bool b => some (.bool b)
  | .number n => n.map .number
  | .string s => s.map .string
  | .array items =>
    match depth with
    | 0 => none
    | depth + 1 => (toItems? depth items).map .array
  | .object members =>
    match depth with
    | 0 => none
    | depth + 1 => (toMembers? depth members).map sorted

def toItems? (depth : Nat) : List Node → Option (List Json)
  | [] => some []
  | item :: rest => do
    let value ← toJson? depth item
    return value :: (← toItems? depth rest)

def toMembers? (depth : Nat) : List (Option String × Node) → Option (List (String × Json))
  | [] => some []
  | (name, item) :: rest => do
    let name ← name
    let value ← toJson? depth item
    return (name, value) :: (← toMembers? depth rest)

end

/-- The number of arrays and objects inside each other that a kept value may have. -/
def maxDepth : Nat := 127

mutual

/-- The number of arrays and objects inside each other that a node has. -/
def height : Node → Nat
  | .array items => itemsHeight items + 1
  | .object members => membersHeight members + 1
  | _ => 0

def itemsHeight : List Node → Nat
  | [] => 0
  | item :: rest => max item.height (itemsHeight rest)

def membersHeight : List (Option String × Node) → Nat
  | [] => 0
  | (_, item) :: rest => max item.height (membersHeight rest)

end

end Json.Node

end ImportBoundary
