import ImportBoundary.Report.Basic
import ImportBoundary.Text.Split

/-!
# Reports as Markdown

A report is written as a list of its findings. A message may have several lines; each of them is
quoted inside the finding's list item, so that no message can break out of it.
-/

namespace ImportBoundary

namespace Markdown

def verdictWord : Verdict → String
  | .pass => "PASS"
  | .warn => "WARN"
  | .fail => "FAIL"

def severityWord : Severity → String
  | .info => "INFO"
  | .warning => "WARN"
  | .error => "ERROR"

def code (s : String) : String := "`" ++ s ++ "`"

/-- The opening of a report, with its figures. -/
def opening (verdict : Verdict) (s : Summary) : String :=
  "# Modguard report\n\n" ++
  "- Verdict: **" ++ verdictWord verdict ++ "**\n" ++
  "- Profile: " ++ code s.profile ++ "\n" ++
  "- Scanned: " ++ toString s.filesScanned ++ " files, " ++ toString s.edgesScanned ++ " imports\n" ++
  "- Findings: " ++ toString s.findingsEmitted ++ " (emitted) / " ++ toString s.findingsTotal ++
    " (total)\n\n"

def note : Option String → String
  | none => ""
  | some reason => "> Note: " ++ reason ++ "\n\n"

def place : Option Location → String
  | none => ""
  | some l =>
    match l.line with
    | none => " at " ++ code l.path.text
    | some line => " at " ++ code (l.path.text ++ ":" ++ toString line)

/-- The first line of a finding. -/
def heading (f : Finding) : String :=
  "- [" ++ severityWord f.severity ++ "] " ++ code f.check ++ " / " ++ code f.code ++
    place f.location ++ "\n"

/-- A line of a message, quoted inside the list item. -/
def quoteLine (line : List Char) : String :=
  if line.isEmpty then "  >\n" else "  > " ++ String.ofList line ++ "\n"

def quote (message : String) : String := String.join ((Text.lines message.toList).map quoteLine)

def help : Option String → String
  | none => ""
  | some help => "  help: " ++ help ++ "\n\n"

def finding (f : Finding) : String := heading f ++ "\n" ++ quote f.message ++ "\n" ++ help f.help

def findings (fs : List Finding) : String :=
  if fs.isEmpty then "No findings.\n" else "## Findings\n\n" ++ String.join (fs.map finding)

end Markdown

def Report.markdown (r : Report) : String :=
  Markdown.opening r.verdict r.summary ++ Markdown.note r.summary.truncatedReason ++
    Markdown.findings r.findings

end ImportBoundary
