import ImportBoundary.Toml.Basic

/-!
# Adding to tables

A table is defined once. A header may define a table that was only implied so far, and may name an
element of an array of tables as the last one of the array. A dotted key may add to a table that
dotted keys have made, but neither to one with a header nor to one in braces.

A key is added by going down the tables on its way, where a table that is missing is made with the
origin of the way. Tables in braces have a way of going down of their own, in which nothing but tables
of dotted keys may be passed.
-/

namespace ImportBoundary.Toml

def Members.get? (members : Members) (key : String) : Option Value := members.lookup key

def Members.put (members : Members) (key : String) (value : Value) : Members :=
  match members with
  | [] => [(key, value)]
  | (k, v) :: rest => if k = key then (key, value) :: rest else (k, v) :: Members.put rest key value

/-- Whether a table may be extended by a dotted key that passes through it. -/
def TableOrigin.isOpen : TableOrigin → Bool
  | implied => true
  | dotted => true
  | header => false
  | inline => false

/-- Goes down a path of keys, making the tables that are missing, and changes the table at its end.
`dotted` tells a dotted key from the path of a header. -/
def descend (dotted : Bool) (change : TableOrigin → Members → Except Fault Members) :
    List String → TableOrigin → Members → Except Fault Members
  | [], origin, members => change origin members
  | key :: path, _, members =>
    match members.get? key with
    | none => do
      let origin := if dotted then .dotted else .implied
      let inner ← descend dotted change path origin []
      return members.put key (.table origin inner)
    | some (.table origin inner) =>
      if origin = .inline then .error .notExtendable
      else if dotted && !origin.isOpen then .error .repeatedKey
      else do
        let inner ← descend dotted change path origin inner
        return members.put key (.table origin inner)
    | some (.tables (last :: before)) => do
      let last ← descend dotted change path .header last
      return members.put key (.tables (last :: before))
    | some _ => .error .notExtendable

def descendInline (change : Members → Except Fault Members) :
    List String → Members → Except Fault Members
  | [], members => change members
  | key :: path, members =>
    match members.get? key with
    | none => do
      let inner ← descendInline change path []
      return members.put key (.table .dotted inner)
    | some (.table .dotted inner) => do
      let inner ← descendInline change path inner
      return members.put key (.table .dotted inner)
    | some _ => .error .notExtendable

def addNew (key : String) (value : Value) (members : Members) : Except Fault Members :=
  match members.get? key with
  | none => .ok (members.put key value)
  | some _ => .error .repeatedKey

/-- Adds a value under a key, which may be dotted. A dotted key ends in a table of dotted keys. -/
def addKey (path : List String) (key : String) (value : Value) (members : Members) :
    Except Fault Members :=
  descend (!path.isEmpty)
    (fun origin inner =>
      -- A key without dots adds to the table at hand, and one with dots to nothing but a table of
      -- dotted keys.
      if (origin = .dotted) = !path.isEmpty then addNew key value inner else .error .repeatedKey)
    path .header members

def addKeyInline (path : List String) (key : String) (value : Value) (members : Members) :
    Except Fault Members :=
  descendInline (addNew key value) path members

/-- The value at a path; an array of tables stands for its last element. -/
def Members.at? : List String → Members → Option Value
  | [], _ => none
  | [key], members => members.get? key
  | key :: path, members =>
    match members.get? key with
    | some (.table _ inner) => Members.at? path inner
    | some (.tables (last :: _)) => Members.at? path last
    | _ => none

/-- The root with the tables on the way to a header, and the members that the table of the header has
before it: those that were implied. A table that has been defined already cannot be defined again. -/
def membersBefore (path : List String) (key : String) (root : Members) :
    Except Fault (Members × Members) := do
  let root ← descend false
    (fun _ inner =>
      match inner.get? key with
      | none => .ok inner
      | some (.table .implied _) => .ok inner
      | some _ => .error .repeatedKey)
    path .header root
  match Members.at? (path ++ [key]) root with
  | some (.table .implied inner) => return (root, inner)
  | _ => return (root, [])

def placeTable (path : List String) (key : String) (table root : Members) : Except Fault Members :=
  descend false (fun _ inner => .ok (inner.put key (.table .header table))) path .header root

def placeElement (path : List String) (key : String) (table root : Members) :
    Except Fault Members :=
  descend false
    (fun _ inner =>
      match inner.get? key with
      | none => .ok (inner.put key (.tables [table]))
      | some (.tables elements) => .ok (inner.put key (.tables (table :: elements)))
      | some _ => .error .repeatedKey)
    path .header root

end ImportBoundary.Toml
