import ImportBoundary.Evaluation
import ImportBoundary.Time.Timestamp

/-!
# Reports

A report is what a run leaves behind: its findings and figures, the tool that made it, and when.

A run that fails leaves a report as well (`ofError`). Its only finding tells of the failure.
-/

namespace ImportBoundary

structure Tool where
  name : String
  version : String
deriving DecidableEq, Repr

/-- The tool that makes the reports here. -/
def Tool.this : Tool := ⟨"modguard", "0.1.0"⟩

structure Report where
  schema : String
  tool : Tool
  startedAt : Timestamp
  finishedAt : Timestamp
  verdict : Verdict
  findings : List Finding
  summary : Summary

namespace Report

/-- The schema of the reports that are made and read here. -/
def schemaName : String := "modguard.report.v1"

def ofEvaluation (e : Evaluation) (startedAt finishedAt : Timestamp) : Report where
  schema := schemaName
  tool := .this
  startedAt
  finishedAt
  verdict := e.verdict
  findings := e.findings
  summary := e.summary

/-- The name under which the tool speaks of itself. -/
def toolCheck : String := "tool.runtime"

def errorCode : String := "runtime_error"

/-- The profile of a report that was made before any profile was known. -/
def unknownProfile : String := "unknown"

def errorFinding (message : String) : Finding where
  severity := .error
  check := toolCheck
  code := errorCode
  message
  location := none
  help := some "Fix the tool error and re-run modguard."
  url := none
  fingerprint := none
  payload := .null

/-- The report of a run that did not get as far as an evaluation. -/
def ofError (profile : Option String) (message : String) (time : Timestamp) : Report where
  schema := schemaName
  tool := .this
  startedAt := time
  finishedAt := time
  verdict := .fail
  findings := [errorFinding message]
  summary := { profile := profile.getD unknownProfile, findingsTotal := 1, findingsEmitted := 1 }

end Report

end ImportBoundary
