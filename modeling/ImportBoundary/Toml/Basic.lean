/-!
# TOML values

A TOML document is a table of keys and values. How a table came about decides who may add to it, so
each table says so (`TableOrigin`); tables that were declared as elements of an array form a value of
their own.

Floats and times keep their text. No field of a configuration has such a value, so it only has to be
known that there is one.
-/

namespace ImportBoundary.Toml

/-- How a table came about. -/
inductive TableOrigin where
  /-- It has a header of its own. -/
  | header
  /-- It was named on the way to another table's header. -/
  | implied
  /-- It was named on the way to a dotted key. -/
  | dotted
  /-- It is written in braces. -/
  | inline
deriving DecidableEq, Repr

inductive Value where
  | string (text : String)
  | integer (value : Int)
  | float (text : String)
  | bool (value : Bool)
  | dateTime (text : String)
  | array (items : List Value)
  | table (origin : TableOrigin) (members : List (String × Value))
  /-- The elements of an array of tables, in reverse order. -/
  | tables (elements : List (List (String × Value)))
deriving Repr, Inhabited

abbrev Members := List (String × Value)

inductive Fault where
  | invalidKey
  | invalidString
  | invalidValue
  | invalidTable
  | repeatedKey
  | notExtendable
  | tooDeep
  | unexpected
deriving DecidableEq, Repr

def Fault.message : Fault → String
  | invalidKey => "invalid key"
  | invalidString => "invalid string"
  | invalidValue => "invalid value"
  | invalidTable => "invalid table header"
  | repeatedKey => "duplicate key"
  | notExtendable => "cannot extend value"
  | tooDeep => "too many nested values"
  | unexpected => "unexpected text"

end ImportBoundary.Toml
