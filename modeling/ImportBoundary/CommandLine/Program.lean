import ImportBoundary.CommandLine.Invocation
import ImportBoundary.Config.Schema
import ImportBoundary.Explanation
import ImportBoundary.Host.Directories
import ImportBoundary.Report.Annotation
import ImportBoundary.Report.Codec
import ImportBoundary.Report.Markdown
import ImportBoundary.Run

/-!
# The program

`Invocation.run` carries out a command on a host and says what it leaves behind: the exit code and
what goes to the output and to the error output. A check that fails on the way still leaves a report,
with the failure as its only finding.
-/

namespace ImportBoundary.CommandLine

variable {m : Type → Type} [Monad m]

/-- What a program leaves behind, apart from files. -/
structure Outcome where
  code : Nat
  output : String := ""
  errors : String := ""
deriving DecidableEq, Repr

/-- Steps that may fail with a chain of causes, the outermost first, and that write lines to the error
output, which stay even if a later step fails. -/
abbrev Steps (m : Type → Type) := ExceptT (List String) (StateT String m)

namespace Steps

def ask {α : Type} (act : m α) : Steps m α := liftM (liftM act : StateT String m α)

def say (line : String) : Steps m Unit := modify (· ++ line ++ "\n")

/-- Goes on with a result, or fails for its reason. -/
def orFail {α ε : Type} (chain : ε → List String) : Except ε α → Steps m α
  | .ok a => pure a
  | .error e => throw (chain e)

/-- Carries out steps: their outcome, and what they wrote to the error output. -/
def perform {α : Type} (steps : Steps m α) : m (Except (List String) α × String) :=
  (ExceptT.run steps).run ""

end Steps

/-- The causes of something behind what was tried. -/
def behind {ε : Type} (attempt : String) (chain : ε → List String) (e : ε) : List String :=
  attempt :: chain e

/-! ### Checking

A check reads two texts from the host, the configuration, which may be missing, and the import graph,
which may not. What it reads goes to `RunInput.run`, which knows nothing of the host, and what comes of
it is written back as a report and, if that is asked for, as Markdown.

The root is asked for twice. First by its absolute name, where a refusal is no failure and the root
stays as it was given, and then whether it is there.
-/

structure CheckTask where
  root : String
  config : String
  overrides : Overrides
  graph : String
  report : String
  markdown : Option String
deriving DecidableEq, Repr

/-- The configuration of a project. If it cannot be read, the defaults apply. -/
def readConfigText (h : Host m) (name : String) : Steps m String := do
  match ← Steps.ask (h.readText name) with
  | .ok text => return text
  | .error _ =>
    Steps.say ("modguard: no config at " ++ name ++ "; using defaults")
    return ""

def writeReport (h : Host m) (name : String) (r : Report) : m (Except Host.WriteError Unit) :=
  h.writeFile "report" name r.text

/-- The root of a check by its absolute name, or as it was given if it has none. Either way something
has to be there. -/
def CheckTask.findRoot (h : Host m) (t : CheckTask) : Steps m String := do
  let root := (← Steps.ask (h.canonical? t.root)).getD t.root
  if ← Steps.ask (h.isThere root) then return root
  else throw ["root does not exist: " ++ root]

def CheckTask.makeReport (compile : PatternCompiler) (h : Host m) (t : CheckTask) :
    Steps m Report := do
  let root ← t.findRoot h
  let config ← readConfigText h (FileName.join root t.config)
  let read ← Steps.ask (h.readText t.graph)
  let graph ← Steps.orFail (fun e => ["read import graph: " ++ t.graph, OsError.message e]) read
  let startedAt ← Steps.ask h.now
  let input : RunInput := ⟨Path.normalize root, config, graph, t.overrides⟩
  let o ← Steps.orFail RunError.chain ((input.run compile).run 0).1
  let finishedAt ← Steps.ask h.now
  let report := Report.ofEvaluation o.evaluation startedAt finishedAt
  if report.summary.edgesScanned = 0 then Steps.say "modguard: import graph has no edges"
  return report

/-- Writes the report of a check, and its Markdown if there is a name for that. -/
def CheckTask.publish (h : Host m) (t : CheckTask) (r : Report) : Steps m Unit := do
  let written ← Steps.ask (writeReport h t.report r)
  Steps.orFail (behind "write report json" Host.WriteError.chain) written
  Steps.say ("modguard: wrote " ++ t.report)
  if let some name := t.markdown then
    let written ← Steps.ask (h.writeFile "text" name r.markdown)
    Steps.orFail (behind "write markdown" Host.WriteError.chain) written
    Steps.say ("modguard: wrote " ++ name)

def CheckTask.steps (compile : PatternCompiler) (h : Host m) (t : CheckTask) : Steps m Verdict := do
  let report ← t.makeReport compile h
  t.publish h report
  return report.verdict

def oneLine (chain : List String) : String := ": ".intercalate chain

/-- Carries out a check. If it fails, a report about the failure takes the place of the report. -/
def CheckTask.run (compile : PatternCompiler) (h : Host m) (t : CheckTask) : m Outcome := do
  let (result, errors) ← Steps.perform (t.steps compile h)
  match result with
  | .ok verdict => return { code := verdict.exitCode, errors }
  | .error chain =>
    -- If the report about the failure cannot be written either, there is nothing left to do.
    let message := oneLine chain
    let report := Report.ofError t.overrides.profile message (← h.now)
    let _ ← writeReport h t.report report
    return { code := 1, errors := errors ++ "modguard error: " ++ message ++ "\n" }

/-! ### Showing reports

The other commands write to the output, and a failure among the errors, with everything that caused it.
They leave no report behind.
-/

/-- Writes lines with a margin; the first line has a margin of its own. -/
def withMargin (first others : String) (text : String) : String :=
  match (Text.split '\n' text.toList).map String.ofList with
  | [] => first
  | line :: rest => first ++ line ++ String.join (rest.map fun line => "\n" ++ others ++ line)

/-- The causes of a failure, numbered if there are several. -/
def causes : List String → String
  | [] => ""
  | [cause] => "\n\nCaused by:\n" ++ withMargin "    " "    " cause
  | several =>
    "\n\nCaused by:" ++ String.join (several.zipIdx.map fun (cause, n) =>
      let number := toString n
      let margin := String.ofList (List.replicate (5 - number.length) ' ')
      "\n" ++ withMargin (margin ++ number ++ ": ") "       " cause)

def failure : List String → String
  | [] => ""
  | error :: chain => "Error: " ++ error ++ causes chain ++ "\n"

def shown (h : Steps m String) : m Outcome := do
  let (result, errors) ← h.perform
  match result with
  | .ok output => return { code := 0, output, errors }
  | .error chain => return { code := 1, errors := errors ++ failure chain }

def readReport (h : Host m) (name : String) : Steps m Report := do
  let read ← Steps.ask (h.readText name)
  let text ← Steps.orFail (fun e => ["read report: " ++ name, OsError.message e]) read
  Steps.orFail Report.ReadError.chain (Report.parse text)

def showMarkdown (h : Host m) (report : String) (output : Option String) : Steps m String := do
  let r ← readReport h report
  match output with
  | none => return r.markdown
  | some name =>
    let written ← Steps.ask (h.writeFile "text" name r.markdown)
    Steps.orFail (behind "write markdown output" Host.WriteError.chain) written
    return ""

/-- Shows the first findings of a report as workflow commands, one on a line. -/
def showAnnotations (h : Host m) (report : String) (limit : Nat) : Steps m String := do
  let r ← readReport h report
  return String.join ((r.annotations.take limit).map fun line => line ++ "\n")

/-! ### The commands

The pattern compiler is a parameter up to here. `run` is the program with the one that compiles regular
expressions.
-/

def explain (name : String) : Outcome :=
  match Explanation.ofName? name with
  | some e => { code := 0, output := e.text }
  | none => { code := 1, errors := Explanation.unknownText name Check.names Explanation.codes }

def Invocation.run (compile : PatternCompiler) (h : Host m) (i : Invocation) : m Outcome :=
  match i.command with
  | .check graph report markdown =>
    CheckTask.run compile h ⟨i.root, i.config, i.overrides, graph, report, markdown⟩
  | .markdown report output => shown (showMarkdown h report output)
  | .annotations report limit => shown (showAnnotations h report limit)
  | .explain name => return explain name
  | .schema => return { code := 0, output := Config.Schema.document.pretty ++ "\n" }

def usage : String :=
  "Usage: modguard [OPTIONS] <check|md|annotations|explain|schema>\n"

/-- What a program leaves behind that does not get to a command. -/
def Stop.outcome : Stop → Outcome
  | .help => { code := 0, output := usage }
  | .version => { code := 0, output := Tool.this.name ++ " " ++ Tool.this.version ++ "\n" }
  | .misuse => { code := 2, errors := "error: invalid arguments\n\n" ++ usage }

/-- Runs the program on a command line, with what compiles the patterns of a configuration. -/
def runWith (compile : PatternCompiler) (h : Host m) (arguments : List String) : m Outcome :=
  match Invocation.read arguments with
  | .ok i => i.run compile h
  | .error stop => return stop.outcome

def run (h : Host m) (arguments : List String) : m Outcome := runWith Pattern.compile h arguments

end ImportBoundary.CommandLine
