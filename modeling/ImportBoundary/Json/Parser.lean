import ImportBoundary.Json.Token

/-!
# From tokens to a document

The tokens are consumed one by one by a machine whose stack holds the arrays and objects that are
still open (`State`), so that a document may nest as deep as it likes. `Node.parse?` reads a whole
text: tokens of one value and nothing else.

What the machine waits for is its state, so each token either fits the state or ends the reading. A
value that is complete goes to the innermost open array or object, and a document is complete when a
value is and nothing is open.
-/

namespace ImportBoundary.Json

/-- An array or object that is still open, with what it holds so far in reverse order. -/
inductive Frame where
  | array (items : List Node)
  | object (members : List (Option String × Node)) (name : Option String)
deriving Repr

/-- What the machine waits for. -/
inductive State where
  /-- A value. -/
  | nextValue (stack : List Frame)
  /-- The first item of an array, or its end. -/
  | firstItem (stack : List Frame)
  /-- The first name of an object, or its end. -/
  | firstName (stack : List Frame)
  /-- A name behind a comma. -/
  | nextName (members : List (Option String × Node)) (stack : List Frame)
  /-- The colon behind a name. -/
  | colon (members : List (Option String × Node)) (name : Option String) (stack : List Frame)
  /-- A comma or an end behind a value. -/
  | after (value : Node) (stack : List Frame)
deriving Repr

namespace State

/-- The node of a token that is a value by itself. -/
def scalar? : Token → Option Node
  | .null => some .null
  | .bool b => some (.bool b)
  | .number n => some (.number n)
  | .string s => some (.string s)
  | _ => none

def begin? (stack : List Frame) : Token → Option State
  | .openArray => some (.firstItem stack)
  | .openObject => some (.firstName stack)
  | token => (scalar? token).map fun node => .after node stack

/-- Consumes one token. -/
def step? : State → Token → Option State
  | .nextValue stack, token => begin? stack token
  | .firstItem stack, .closeArray => some (.after (.array []) stack)
  | .firstItem stack, token => begin? (.array [] :: stack) token
  | .firstName stack, .closeObject => some (.after (.object []) stack)
  | .firstName stack, .string name => some (.colon [] name stack)
  | .nextName members stack, .string name => some (.colon members name stack)
  | .colon members name stack, .colon => some (.nextValue (.object members name :: stack))
  | .after value (.array items :: stack), .comma =>
    some (.nextValue (.array (value :: items) :: stack))
  | .after value (.array items :: stack), .closeArray =>
    some (.after (.array (value :: items).reverse) stack)
  | .after value (.object members name :: stack), .comma =>
    some (.nextName ((name, value) :: members) stack)
  | .after value (.object members name :: stack), .closeObject =>
    some (.after (.object ((name, value) :: members).reverse) stack)
  | _, _ => none

def run? (state : State) : List Token → Option State
  | [] => some state
  | token :: rest => (step? state token).bind fun next => run? next rest

end State

def Node.ofTokens? (tokens : List Token) : Option Node :=
  match State.run? (.nextValue []) tokens with
  | some (.after value []) => some value
  | _ => none

def Node.parse? (text : String) : Option Node := (Token.scan? text.toList).bind Node.ofTokens?

/-- Reads a document as a free-form value. -/
def parse? (text : String) : Option Json := (Node.parse? text).bind (Node.toJson? Node.maxDepth)

end ImportBoundary.Json
