import ImportBoundary.Finding.Basic
import ImportBoundary.Json.Decode

/-!
# Findings as JSON

Severities and verdicts are words. Locations and findings are records, in which everything that is not
always there is left out instead of being written as null. A payload is kept as it is; when it is
missing it is read as null, and null is not written.
-/

namespace ImportBoundary

open Json (Decoder Row ifSome)

def Severity.decode : Decoder Severity := Decoder.word Severity.ofName?

def Severity.encode (s : Severity) : Json := .string s.name

def Verdict.decode : Decoder Verdict := Decoder.word Verdict.ofName?

def Verdict.encode (v : Verdict) : Json := .string v.name

namespace Location

def fields : List String := ["path", "line", "col"]

/-- Reads a location. The path stays as it is spelled. -/
def decode : Decoder Location
  | 0, _ => none
  | depth + 1, node => do
    let row ← Row.ofNode? fields node
    let path ← row.required "path" (Decoder.string depth)
    let line ← row.optional "line" (Decoder.nullable Decoder.nat32 depth)
    let column ← row.optional "col" (Decoder.nullable Decoder.nat32 depth)
    return ⟨⟨path⟩, line, column⟩

def encode (l : Location) : Json :=
  .object <|
    [("path", .string l.path.text)] ++
    ifSome "line" Json.ofNat l.line ++
    ifSome "col" Json.ofNat l.column

end Location

namespace Finding

def fields : List String :=
  ["severity", "check_id", "code", "message", "location", "help", "url", "fingerprint", "data"]

def decode : Decoder Finding
  | 0, _ => none
  | depth + 1, node => do
    let row ← Row.ofNode? fields node
    let severity ← row.required "severity" (Severity.decode depth)
    let check ← row.required "check_id" (Decoder.string depth)
    let code ← row.required "code" (Decoder.string depth)
    let message ← row.required "message" (Decoder.string depth)
    let location ← row.optional "location" (Decoder.nullable Location.decode depth)
    let help ← row.optional "help" (Decoder.nullable Decoder.string depth)
    let url ← row.optional "url" (Decoder.nullable Decoder.string depth)
    let fingerprint ← row.optional "fingerprint" (Decoder.nullable Decoder.string depth)
    let payload ← row.defaulted "data" .null (Decoder.free depth)
    return { severity, check, code, message, location, help, url, fingerprint, payload }

/-- The payload as a member, unless it is null. -/
def payloadMember : Json → List (String × Json)
  | .null => []
  | payload => [("data", payload)]

def encode (f : Finding) : Json :=
  .object <|
    [("severity", f.severity.encode), ("check_id", .string f.check), ("code", .string f.code),
      ("message", .string f.message)] ++
    ifSome "location" Location.encode f.location ++
    ifSome "help" .string f.help ++
    ifSome "url" .string f.url ++
    ifSome "fingerprint" .string f.fingerprint ++
    payloadMember f.payload

end Finding

end ImportBoundary
