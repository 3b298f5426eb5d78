import ImportBoundary.CommandLine.Options
import ImportBoundary.Settings.Resolve

/-!
# What a command line asks for

The options that stand before the command hold for every command; each command has options of its own
behind it.

A command line is read before anything is done. A value with a wrong form is refused where it stands,
and so is an option that is given twice; a command that lacks something it needs is refused when all of
its options have been read.
-/

namespace ImportBoundary.CommandLine

inductive Command where
  /-- Checks a graph and writes the report, also as Markdown if there is a name for that. -/
  | check (graph report : String) (markdown : Option String)
  /-- Shows a report as Markdown, or writes it to a file. -/
  | markdown (report : String) (output : Option String)
  /-- Shows the first findings of a report as workflow commands. -/
  | annotations (report : String) (limit : Nat)
  | explain (name : String)
  | schema
deriving DecidableEq, Repr

/-- A command, with the options that hold for every command. -/
structure Invocation where
  root : String := "."
  /-- The configuration, relative to the root. -/
  config : String := "modguard.toml"
  overrides : Overrides := {}
  command : Command
deriving DecidableEq, Repr

/-! ### Numbers

The two numbers of the command line are read as numbers of fixed width, with what the standard readers
of such numbers allow in front of the digits.
-/

/-- The number that digits spell; they must all be digits, and there must be one. -/
def digits? (s : List Char) : Option Nat :=
  if s.isEmpty || !s.all Char.isDigit then none
  else some (s.foldl (fun n c => n * 10 + (c.toNat - '0'.toNat)) 0)

/-- A natural number that may have a plus sign. -/
def nat? (s : String) : Option Nat :=
  match s.toList with
  | '+' :: rest => digits? rest
  | chars => digits? chars

/-- A number of findings: 32 bits, and a zero may have a minus sign. -/
def findingLimit? (s : String) : Option Nat :=
  match s.toList with
  | '-' :: rest => (digits? rest).filter (· = 0)
  | _ => (nat? s).filter (· < UInt32.size)

/-- A number of annotations: 64 bits. -/
def annotationLimit? (s : String) : Option Nat := (nat? s).filter (· < UInt64.size)

/-! ### The options of the commands

A command is read by its own rules for options. The reader of a command takes what stands behind its
name, and `commands` lists the readers by these names.
-/

def defaultReport : String := "artifacts/modguard/report.json"

def defaultMarkdown : String := "artifacts/modguard/comment.md"

def commonRules : List Rule := [
  ⟨"root", none, .value fun _ => true⟩,
  ⟨"config", none, .value fun _ => true⟩,
  ⟨"profile", none, .value fun _ => true⟩,
  ⟨"max-findings", none, .value fun s => (findingLimit? s).isSome⟩,
  ⟨"version", some 'V', .stop .version⟩,
  .help]

def checkRules : List Rule := [
  ⟨"graph", none, .value fun _ => true⟩,
  ⟨"report-out", none, .value fun _ => true⟩,
  ⟨"write-markdown", none, .flag⟩,
  ⟨"markdown-out", none, .value fun _ => true⟩,
  .help]

def markdownRules : List Rule := [
  ⟨"report", none, .value fun _ => true⟩,
  ⟨"output", some 'o', .value fun _ => true⟩,
  .help]

def annotationRules : List Rule := [
  ⟨"report", none, .value fun _ => true⟩,
  ⟨"max", none, .value fun s => (annotationLimit? s).isSome⟩,
  .help]

def required (value : Option String) : Except Stop String :=
  match value with
  | some value => .ok value
  | none => .error .misuse

/-- Reads the options of a command that takes no operands. -/
def readOptions (rules : List Rule) (arguments : List String) : Except Stop Reading := do
  let (r, _) ← read rules (some 0) {} arguments
  return r

def readCheck (arguments : List String) : Except Stop Command := do
  let r ← readOptions checkRules arguments
  let graph ← required (r.option? "graph")
  let markdown := (r.option? "markdown-out").getD defaultMarkdown
  return .check graph ((r.option? "report-out").getD defaultReport)
    (if r.has "write-markdown" then some markdown else none)

def readMarkdown (arguments : List String) : Except Stop Command := do
  let r ← readOptions markdownRules arguments
  return .markdown ((r.option? "report").getD defaultReport) (r.option? "output")

def defaultAnnotationLimit : Nat := 10

def readAnnotations (arguments : List String) : Except Stop Command := do
  let r ← readOptions annotationRules arguments
  let limit := ((r.option? "max").bind annotationLimit?).getD defaultAnnotationLimit
  return .annotations ((r.option? "report").getD defaultReport) limit

def readExplain (arguments : List String) : Except Stop Command := do
  let (r, _) ← read [.help] (some 1) {} arguments
  let name ← required r.operands.head?
  return .explain name

def commands : List (String × (List String → Except Stop Command)) := [
  ("check", readCheck),
  ("md", readMarkdown),
  ("annotations", readAnnotations),
  ("explain", readExplain),
  ("schema", fun arguments => do
    let _ ← readOptions [.help] arguments
    return .schema)]

def helpCommand : String := "help"

/-- Reads what stands behind the command that shows help: nothing, or the name of a command. -/
def readHelp (arguments : List String) : Stop :=
  match arguments with
  | [] => .help
  | [name] => if name = helpCommand ∨ (commands.lookup name).isSome then .help else .misuse
  | _ => .misuse

def readCommand (name : String) (arguments : List String) : Except Stop Command :=
  if name = helpCommand then .error (readHelp arguments)
  else match commands.lookup name with
    | some reader => reader arguments
    | none => .error .misuse

def Invocation.read (arguments : List String) : Except Stop Invocation := do
  let (r, rest) ← CommandLine.read commonRules none {} arguments
  match rest with
  | [] => .error .misuse
  | name :: rest =>
    let command ← readCommand name rest
    return {
      root := (r.option? "root").getD "."
      config := (r.option? "config").getD "modguard.toml"
      overrides := ⟨r.option? "profile", (r.option? "max-findings").bind findingLimit?⟩
      command }

end ImportBoundary.CommandLine
