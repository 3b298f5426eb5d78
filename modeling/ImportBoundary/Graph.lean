import ImportBoundary.Edge
import ImportBoundary.Json.Decode

/-!
# Import graphs

The graph is what the host found when it read the project's files: one record for each import. It
comes as JSON. A graph may name its schema; if it does, the schema has to be the one that is read here.
-/

namespace ImportBoundary

open Json (Decoder Row ifSome)

/-- One import as the host found it. -/
structure ImportRecord where
  file : String
  /-- The import text as written. -/
  importText : String
  line : Option Nat := none
  column : Option Nat := none
deriving DecidableEq, Repr

structure ImportGraph where
  schema : Option String := none
  records : List ImportRecord := []
deriving DecidableEq, Repr

def ImportRecord.edge (record : ImportRecord) (root : Path) : Edge :=
  ⟨record.file, record.importText, root⟩

/-- The importing files in order, each once. In order, the repetitions of a file stand side by side. -/
def ImportGraph.files (g : ImportGraph) : List String :=
  ((g.records.map ImportRecord.file).mergeSort fun a b => (Text.order a b).isLE).eraseReps

/-! ### JSON

Records are permissive in what they leave out, and a graph without a schema is taken for one that is
known here. The lines and columns have 32 bits.
-/

namespace ImportRecord

def fields : List String := ["file", "import", "line", "col"]

def decode : Decoder ImportRecord
  | 0, _ => none
  | depth + 1, node => do
    let row ← Row.ofNode? fields node
    let file ← row.required "file" (Decoder.string depth)
    let importText ← row.required "import" (Decoder.string depth)
    let line ← row.defaulted "line" none (Decoder.nullable Decoder.nat32 depth)
    let column ← row.defaulted "col" none (Decoder.nullable Decoder.nat32 depth)
    return { file, importText, line, column }

def encode (r : ImportRecord) : Json :=
  .object <|
    [("file", .string r.file), ("import", .string r.importText)] ++
    ifSome "line" Json.ofNat r.line ++
    ifSome "col" Json.ofNat r.column

end ImportRecord

namespace ImportGraph

/-- The schema of the graphs that are read here. -/
def schemaName : String := "modguard.imports.v1"

def fields : List String := ["schema", "edges"]

def decode : Decoder ImportGraph
  | 0, _ => none
  | depth + 1, node => do
    let row ← Row.ofNode? fields node
    let schema ← row.defaulted "schema" none (Decoder.nullable Decoder.string depth)
    let records ← row.defaulted "edges" [] (Decoder.list ImportRecord.decode depth)
    return { schema, records }

def encode (g : ImportGraph) : Json :=
  .object <|
    ifSome "schema" .string g.schema ++
    [("edges", .array (g.records.map ImportRecord.encode))]

inductive ReadError where
  | notGraph
  | foreignSchema (schema : String)
deriving DecidableEq, Repr

/-- What went wrong, and the causes of it, the outermost first. -/
def ReadError.chain : ReadError → List String
  | notGraph => ["parse import graph json", "invalid JSON"]
  | foreignSchema schema =>
    ["unsupported import graph schema: " ++ schema ++ " (expected " ++ schemaName ++ ")"]

def parse (text : String) : Except ReadError ImportGraph :=
  match decode.parse? text with
  | none => .error .notGraph
  | some g =>
    match g.schema with
    | none => .ok g
    | some schema => if schema = schemaName then .ok g else .error (.foreignSchema schema)

end ImportGraph

end ImportBoundary
