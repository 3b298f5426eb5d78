import ImportBoundary.Cache
import ImportBoundary.Digest.Sha256
import ImportBoundary.Graph
import ImportBoundary.Judgement

/-!
# What the checks find

Each check looks at one edge and says what it finds. `findings` runs the checks that are enabled, one
after another, on one edge; they share the edge's cell, so the destination is worked out at most
once, and only if a check needs it.
-/

namespace ImportBoundary

/-! ### Fingerprints

A fingerprint leaves out the line and the message, so it stays the same when a file is edited around
the import.
-/

/-- What a fingerprint stands for: the kind of finding, the importing file and the import text. -/
def fingerprintSubject (check code : String) (file : String) (importText : String) : String :=
  "|".intercalate [check, code, file, importText]

def fingerprint (check code : String) (file : String) (importText : String) : String :=
  Sha256.hex (fingerprintSubject check code file importText)

/-! ### Drafts

What a check finds does not depend on how grave it is. The severity is put in from the settings, and
the place from the record of the import.
-/

/-- What a check has to say of an edge, before its severity and place are known. -/
structure Draft where
  check : Check
  code : String
  message : String
  help : String
  payload : Json

def Draft.finding (d : Draft) (policy : Policy) (e : Edge) (record : ImportRecord) : Finding where
  severity := policy.severity
  check := d.check.name
  code := d.code
  message := d.message
  location := some ⟨e.source, record.line, record.column⟩
  help := some d.help
  url := none
  fingerprint := some (fingerprint d.check.name d.code e.source.text e.importText)
  payload := d.payload

/-- The payload of a finding that is about the destination of an edge. -/
def destinationPayload (e : Edge) (d : Destination) : Json :=
  .sorted [("file", .string e.source.text), ("import", .string e.importText),
    ("resolved", .string d.path.text)]

/-! ### The checks

The first two checks may ask the edge for its destination, so they run in the state of its cell. They
ask once more when they have something to say, and then it is there. The third one looks at the import
text alone.
-/

def ViolationKind.help : ViolationKind → String
  | privateImplementation =>
    "Import the module through its interface, or add the file to the module's `interface`."
  | notADependency => "Declare the imported module in the importing module's `dependencies`."
  | invalidExternal => "Add a matching pattern to the importing module's `externals`."

def layerHelp : String := "Import from a layer the file is allowed to depend on."

def boundedHelp : String := "Rewrite the import through an alias or a shorter path."

def moduleDrafts (scope : Scope) (e : Edge) : StateM Edge.Cell (List Draft) := do
  match ← e.violationMessages scope with
  | none => return []
  | some (kind, message) =>
    let d ← e.demand
    return [⟨.modules, kind.code, message, kind.help, destinationPayload e d⟩]

def layerDrafts (rules : List LayerRule) (e : Edge) : StateM Edge.Cell (List Draft) := do
  let messages ← layerMessages rules e
  if messages.isEmpty then return []
  let d ← e.demand
  return messages.map fun message =>
    ⟨.layers, Check.layerCode, message, layerHelp, destinationPayload e d⟩

/-- The rejected texts that an import holds. -/
def Edge.rejected (e : Edge) (bounded : List String) : List String :=
  bounded.filter fun text => Text.occursIn text.toList e.importText.toList

def boundedDrafts (bounded : List String) (e : Edge) : List Draft :=
  let rejected := e.rejected bounded
  if rejected.isEmpty then []
  else
    [⟨.bounded, Check.boundedCode, "Imports cannot contain " ++ ", ".intercalate rejected,
      boundedHelp,
      .sorted [("file", .string e.source.text), ("import", .string e.importText),
        ("rejected", .array (rejected.map .string))]⟩]

/-- What a check has to say of an edge. -/
def Check.drafts (check : Check) (s : Settings) (rules : CompiledRules) (e : Edge) :
    StateM Edge.Cell (List Draft) :=
  match check with
  | modules => moduleDrafts rules.scope e
  | layers => layerDrafts rules.layers e
  | bounded => pure (boundedDrafts s.bounded e)

/-- The findings of a check, if it runs. -/
def Check.findings (check : Check) (s : Settings) (rules : CompiledRules) (e : Edge)
    (record : ImportRecord) : StateM Edge.Cell (List Finding) :=
  match s.policy? check.name with
  | none => pure []
  | some policy => do
    let drafts ← check.drafts s rules e
    return drafts.map fun d => d.finding policy e record

/-- The findings of several checks, one after another. -/
def findingsOf (s : Settings) (rules : CompiledRules) (e : Edge) (record : ImportRecord) :
    List Check → StateM Edge.Cell (List Finding)
  | [] => pure []
  | check :: rest => do
    let first ← check.findings s rules e record
    return first ++ (← findingsOf s rules e record rest)

def ImportRecord.findings (record : ImportRecord) (s : Settings) (rules : CompiledRules)
    (root : Path) : List Finding :=
  (findingsOf s rules (record.edge root) record Check.all).run none |>.1

end ImportBoundary
