import ImportBoundary.Text.Split

/-!
# Options of a command line

A command line is read from left to right. An option is a word behind two dashes, or a letter behind
one; its value stands behind an equals sign, for a letter also right behind it, or is the next
argument, which must not look like an option itself. Two dashes alone end the options. The first thing
that is wrong decides, and so does the first wish for help or for the version.

Which options there are is a parameter of reading (`Rule`). The same reader serves the options before a
command, where the first operand ends the reading, and those behind it, where operands are counted.
-/

namespace ImportBoundary.CommandLine

/-- Why reading stops before the end. -/
inductive Stop where
  | help
  | version
  | misuse
deriving DecidableEq, Repr

inductive Action where
  /-- It takes a value that passes a test. -/
  | value (accepts : String → Bool)
  /-- It is there or not. -/
  | flag
  /-- It stops the reading. -/
  | stop (reason : Stop)

structure Rule where
  name : String
  letter : Option Char := none
  action : Action := .value fun _ => true

/-- The wish for help, which every command understands. -/
def Rule.help : Rule := ⟨"help", some 'h', .stop .help⟩

inductive Shape where
  | word (name : String) (attached : Option String)
  | letters (first : Char) (rest : List Char)
  | endOfOptions
  | operand
deriving DecidableEq, Repr

/-- Cuts a text at its first equals sign. -/
def splitEquals (s : List Char) : String × Option String :=
  (String.ofList (s.takeWhile (· ≠ '=')),
    match s.dropWhile (· ≠ '=') with
    | [] => none
    | _ :: rest => some (String.ofList rest))

def Shape.of (argument : String) : Shape :=
  match argument.toList with
  | ['-', '-'] => .endOfOptions
  | '-' :: '-' :: rest => let (name, attached) := splitEquals rest; .word name attached
  | '-' :: first :: rest => .letters first rest
  | _ => .operand

def Shape.isWord : Shape → Bool
  | .word _ _ => true
  | _ => false

structure Reading where
  /-- Option names with their values; a flag has the empty value. -/
  options : List (String × String) := []
  operands : List String := []
deriving DecidableEq, Repr

namespace Reading

def option? (r : Reading) (name : String) : Option String := r.options.lookup name

def has (r : Reading) (name : String) : Bool := (r.option? name).isSome

/-- Adds an option, which may be given only once. -/
def add (r : Reading) (rule : Rule) (value : String) : Except Stop Reading :=
  let fits := match rule.action with
    | .value accepts => accepts value
    | _ => true
  if r.has rule.name || !fits then .error .misuse
  else .ok { r with options := r.options ++ [(rule.name, value)] }

end Reading

/-- The value of a letter that stands right behind it. -/
def attachedToLetter : List Char → Option String
  | [] => none
  | '=' :: rest => some (String.ofList rest)
  | rest => some (String.ofList rest)

/-- The option that an argument names, with the value that is attached to it. -/
def ruleOf (rules : List Rule) : Shape → Option (Rule × Option String)
  | .word name attached => (rules.find? fun r => r.name = name).map (·, attached)
  | .letters first rest =>
    (rules.find? fun r => r.letter = some first).map (·, attachedToLetter rest)
  | _ => none

/-- Adds operands, of which there may be at most `limit`. -/
def Reading.addOperands (r : Reading) (limit : Nat) (operands : List String) :
    Except Stop Reading :=
  if r.operands.length + operands.length ≤ limit then
    .ok { r with operands := r.operands ++ operands }
  else .error .misuse

/-- Reads arguments. Without a limit on operands, the first one ends the reading and is left to
somebody else with what follows. -/
def read (rules : List Rule) (limit : Option Nat) (r : Reading) :
    List String → Except Stop (Reading × List String)
  | [] => .ok (r, [])
  | argument :: rest =>
    match Shape.of argument, limit with
    | .endOfOptions, limit => do
      let r ← r.addOperands (limit.getD 0) rest
      return (r, [])
    | .operand, none => .ok (r, argument :: rest)
    | .operand, some limit => do
      let r ← r.addOperands limit [argument]
      read rules (some limit) r rest
    | shape, limit =>
      match ruleOf rules shape with
      | none => .error .misuse
      | some (rule, attached) =>
        match rule.action, attached, rest with
        | .stop reason, attached, _ =>
          -- What stands behind the option is not read any more.
          .error (if attached.isSome && shape.isWord then .misuse else reason)
        | .flag, none, rest => do
          let r ← r.add rule ""
          read rules limit r rest
        | .flag, some _, _ => .error .misuse
        | .value _, some value, rest => do
          let r ← r.add rule value
          read rules limit r rest
        | .value _, none, value :: rest =>
          if Shape.of value = .operand then do
            let r ← r.add rule value
            read rules limit r rest
          else .error .misuse
        | .value _, none, [] => .error .misuse

end ImportBoundary.CommandLine
