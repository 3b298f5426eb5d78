import ImportBoundary.Finding.Codec
import ImportBoundary.Json.Printer
import ImportBoundary.Report.Basic

/-!
# Reports as JSON

A report is written with its fields in their order and with indentation. It is read in two steps:
first as a free-form value, whose schema has to be known here, and then as a report.

In the first step the last of several members with one name counts, and values may not nest beyond a
limit. Both then hold of what is read in the second.
-/

namespace ImportBoundary

open Json (Decoder Node Row ifSome)

namespace Tool

def fields : List String := ["name", "version"]

def decode : Decoder Tool
  | 0, _ => none
  | depth + 1, node => do
    let row ← Row.ofNode? fields node
    let name ← row.required "name" (Decoder.string depth)
    let version ← row.required "version" (Decoder.string depth)
    return ⟨name, version⟩

def encode (t : Tool) : Json := .object [("name", .string t.name), ("version", .string t.version)]

end Tool

def Timestamp.decode : Decoder Timestamp := fun depth node =>
  (Decoder.string depth node).bind Timestamp.parse?

def Timestamp.encode (t : Timestamp) : Json := .string t.text

namespace Summary

def fields : List String :=
  ["profile", "files_scanned", "edges_scanned", "modules_declared", "findings_total",
    "findings_emitted", "truncated_reason"]

def decode : Decoder Summary
  | 0, _ => none
  | depth + 1, node => do
    let row ← Row.ofNode? fields node
    let profile ← row.required "profile" (Decoder.string depth)
    let filesScanned ← row.required "files_scanned" (Decoder.nat32 depth)
    let edgesScanned ← row.required "edges_scanned" (Decoder.nat32 depth)
    let modulesDeclared ← row.required "modules_declared" (Decoder.nat32 depth)
    let findingsTotal ← row.required "findings_total" (Decoder.nat32 depth)
    let findingsEmitted ← row.required "findings_emitted" (Decoder.nat32 depth)
    let truncatedReason ← row.optional "truncated_reason" (Decoder.nullable Decoder.string depth)
    return ⟨profile, filesScanned, edgesScanned, modulesDeclared, findingsTotal, findingsEmitted,
      truncatedReason⟩

def encode (s : Summary) : Json :=
  .object <|
    [("profile", .string s.profile), ("files_scanned", .ofNat s.filesScanned),
      ("edges_scanned", .ofNat s.edgesScanned), ("modules_declared", .ofNat s.modulesDeclared),
      ("findings_total", .ofNat s.findingsTotal), ("findings_emitted", .ofNat s.findingsEmitted)] ++
    ifSome "truncated_reason" .string s.truncatedReason

end Summary

namespace Report

def fields : List String :=
  ["schema", "tool", "started_at", "finished_at", "verdict", "findings", "data"]

def decode : Decoder Report
  | 0, _ => none
  | depth + 1, node => do
    let row ← Row.ofNode? fields node
    let schema ← row.required "schema" (Decoder.string depth)
    let tool ← row.required "tool" (Tool.decode depth)
    let startedAt ← row.required "started_at" (Timestamp.decode depth)
    let finishedAt ← row.required "finished_at" (Timestamp.decode depth)
    let verdict ← row.required "verdict" (Verdict.decode depth)
    let findings ← row.required "findings" (Decoder.list Finding.decode depth)
    let summary ← row.required "data" (Summary.decode depth)
    return { schema, tool, startedAt, finishedAt, verdict, findings, summary }

def encode (r : Report) : Json :=
  .object [("schema", .string r.schema), ("tool", r.tool.encode), ("started_at", r.startedAt.encode),
    ("finished_at", r.finishedAt.encode), ("verdict", r.verdict.encode),
    ("findings", .array (r.findings.map Finding.encode)), ("data", r.summary.encode)]

def text (r : Report) : String := r.encode.pretty

inductive ReadError where
  | notJson
  | foreignSchema (schema : String)
  | notReport
deriving DecidableEq, Repr

def ReadError.chain : ReadError → List String
  | notJson => ["parse report json", "invalid JSON"]
  | foreignSchema schema =>
    ["unknown report schema: " ++ schema ++ " (expected " ++ schemaName ++ ")"]
  | notReport => ["parse modguard report", "invalid type"]

/-- The schema that a value names; the empty text if it names none. -/
def namedSchema (value : Json) : String := ((value.member? "schema").bind Json.asString?).getD ""

def parse (text : String) : Except ReadError Report :=
  match Json.parse? text with
  | none => .error .notJson
  | some value =>
    if namedSchema value = schemaName then
      match decode.unbounded? (Node.ofJson value) with
      | some r => .ok r
      | none => .error .notReport
    else .error (.foreignSchema (namedSchema value))

end Report

end ImportBoundary
