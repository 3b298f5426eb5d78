import ImportBoundary.Report.Basic

/-!
# Findings as workflow commands

A build server shows a finding next to the code when it reads a line of the form
`::level name=value,name=value::message`. Line ends and the percent sign are escaped everywhere, and
in values also the colon and the comma, so a finding is always one line and no text can add to the
command around it.
-/

namespace ImportBoundary.Annotation

/-- Escapes a message. The percent sign comes first, because the other escapes bring new ones in. -/
def escapeData (s : List Char) : List Char :=
  Text.replaceAll ['\n'] ['%', '0', 'A'] <|
  Text.replaceAll ['\r'] ['%', '0', 'D'] <|
  Text.replaceAll ['%'] ['%', '2', '5'] s

/-- Escapes the value of a property, which ends at a comma and stands before a colon. -/
def escapeProperty (s : List Char) : List Char :=
  Text.replaceAll [','] ['%', '2', 'C'] <|
  Text.replaceAll [':'] ['%', '3', 'A'] <|
  escapeData s

def data (s : String) : String := String.ofList (escapeData s.toList)

def value (s : String) : String := String.ofList (escapeProperty s.toList)

def level : Severity → String
  | .error => "error"
  | .warning => "warning"
  | .info => "notice"

def numberProperty (name : String) : Option Nat → List String
  | none => []
  | some n => [name ++ "=" ++ toString n]

def locationProperties : Option Location → List String
  | none => []
  | some l =>
    ("file=" ++ value l.path.text) :: numberProperty "line" l.line ++ numberProperty "col" l.column

def properties (f : Finding) : List String :=
  locationProperties f.location ++ ["title=" ++ value (f.check ++ "/" ++ f.code)]

def ofFinding (f : Finding) : String :=
  "::" ++ level f.severity ++ " " ++ ",".intercalate (properties f) ++ "::" ++ data f.message

end ImportBoundary.Annotation

namespace ImportBoundary

def Report.annotations (r : Report) : List String := r.findings.map Annotation.ofFinding

end ImportBoundary
