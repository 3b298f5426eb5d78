import ImportBoundary.Proofs.Finding.Codec
import ImportBoundary.Proofs.Time.Timestamp
import ImportBoundary.Report.Codec

/-!
# Reading reports back

A report is read back from its text (`Report.parse_text`) if it names the schema that is read here, its
numbers have 32 bits and its findings are read back (`Report.Storable`), and the payloads of the
findings leave room for the report around them. Every report that was read is storable
(`Report.storable_of_parse`).
-/

namespace ImportBoundary

open Json (Decoder Node Printable Row ifSome lookup_ifSome map_fst_ifSome_sublist
  forall_mem_ifSome)

theorem Tool.reads (t : Tool) : Tool.decode.Reads t.encode t := by
  intro depth bound
  obtain ⟨d, row, rfl, found, holds⟩ :=
    Row.exists_row fields (by decide) bound (List.Sublist.refl fields)
  have name : row.required "name" (Decoder.string d) = some t.name :=
    holds.required (by simp) (Decoder.reads_string _)
  have version : row.required "version" (Decoder.string d) = some t.version :=
    holds.required (by simp [lookup_cons_eq]) (Decoder.reads_string _)
  rw [encode, decode, found]
  simp [name, version]

theorem Timestamp.reads (t : Timestamp) : Timestamp.decode.Reads t.encode t := by
  intro depth bound
  have text : Decoder.string depth (Node.ofJson t.encode.canonical) = some t.text := rfl
  rw [decode, text, Option.bind_some, parse?_text]

/-! ## Summaries

The figures are counts, which are cut to 32 bits when a summary is made, and a summary is read only if
they have no more.
-/

namespace Summary

/-- The figures of a summary. -/
def figures (s : Summary) : List Nat :=
  [s.filesScanned, s.edgesScanned, s.modulesDeclared, s.findingsTotal, s.findingsEmitted]

/-- The figures have 32 bits. -/
def Fits (s : Summary) : Prop := ∀ n ∈ s.figures, n ≤ Decoder.maxNat32

theorem reads {s : Summary} (h : s.Fits) : decode.Reads s.encode s := by
  intro depth bound
  obtain ⟨d, row, rfl, found, holds⟩ := Row.exists_row fields (by decide) bound (by
    rw [List.map_append]
    exact (List.Sublist.refl _).append map_fst_ifSome_sublist)
  have profile : row.required "profile" (Decoder.string d) = some s.profile :=
    holds.required (by simp) (Decoder.reads_string _)
  have filesScanned : row.required "files_scanned" (Decoder.nat32 d) = some s.filesScanned :=
    holds.required (by simp [lookup_cons_eq]) (Decoder.reads_nat32 (h _ (by simp [figures])))
  have edgesScanned : row.required "edges_scanned" (Decoder.nat32 d) = some s.edgesScanned :=
    holds.required (by simp [lookup_cons_eq]) (Decoder.reads_nat32 (h _ (by simp [figures])))
  have modulesDeclared :
      row.required "modules_declared" (Decoder.nat32 d) = some s.modulesDeclared :=
    holds.required (by simp [lookup_cons_eq]) (Decoder.reads_nat32 (h _ (by simp [figures])))
  have findingsTotal : row.required "findings_total" (Decoder.nat32 d) = some s.findingsTotal :=
    holds.required (by simp [lookup_cons_eq]) (Decoder.reads_nat32 (h _ (by simp [figures])))
  have findingsEmitted :
      row.required "findings_emitted" (Decoder.nat32 d) = some s.findingsEmitted :=
    holds.required (by simp [lookup_cons_eq]) (Decoder.reads_nat32 (h _ (by simp [figures])))
  have truncatedReason : row.optional "truncated_reason" (Decoder.nullable Decoder.string d) =
      some s.truncatedReason :=
    holds.optional (by simp [lookup_cons_eq, lookup_ifSome])
      (fun _ _ => Decoder.reads_string _) (fun _ _ => nofun)
  rw [encode, decode, found]
  simp [profile, filesScanned, edgesScanned, modulesDeclared, findingsTotal, findingsEmitted,
    truncatedReason]

theorem printable_encode {s : Summary} (h : s.Fits) {depth : Nat} :
    Printable (depth + 1) s.encode := by
  have figure (n : Nat) (mem : n ∈ s.figures) : Printable depth (.ofNat n) :=
    .ofNat (le_maxSignificand (h n mem))
  refine .object ?_
  simp only [List.forall_mem_append, List.forall_mem_cons, forall_mem_ifSome]
  exact ⟨⟨.string _, figure _ (by simp [figures]), figure _ (by simp [figures]),
    figure _ (by simp [figures]), figure _ (by simp [figures]), figure _ (by simp [figures]),
    List.forall_mem_nil _⟩, fun _ _ => .string _⟩

/-- The figures of a summary that was read have 32 bits. -/
theorem fits_of_decode {depth : Nat} {node : Node} {s : Summary} (h : decode depth node = some s) :
    s.Fits := by
  obtain - | depth := depth
  · cases h
  simp only [decode, Option.bind_eq_bind, Option.bind_eq_some_iff] at h
  obtain ⟨row, -, profile, -, files, h_files, edges, h_edges, modules, h_modules, total, h_total,
    emitted, h_emitted, reason, -, same⟩ := h
  cases same
  have fits {name : String} {n : Nat} (read : row.required name (Decoder.nat32 depth) = some n) :
      n ≤ Decoder.maxNat32 := by
    obtain ⟨node, read⟩ := Row.exists_of_required read
    exact Decoder.le_of_nat32 read
  simp only [Fits, figures, List.forall_mem_cons]
  exact ⟨fits h_files, fits h_edges, fits h_modules, fits h_total, fits h_emitted,
    List.forall_mem_nil _⟩

end Summary

/-! ## Reports

A report is read in two steps. The schema is looked for first, in the whole value, and the value is
decoded if it is the one that is expected. The theorem about reading needs that printing keeps the
value as it is, which limits how deep the payloads may be.
-/

namespace Report

/-- A report that is read as it is kept. -/
structure Storable (r : Report) : Prop where
  schema : r.schema = schemaName
  findings : ∀ f ∈ r.findings, f.Storable
  summary : r.summary.Fits

theorem reads {r : Report} (h : r.Storable) : decode.Reads r.encode r := by
  intro depth bound
  obtain ⟨d, row, rfl, found, holds⟩ :=
    Row.exists_row fields (by decide) bound (List.Sublist.refl fields)
  have schema : row.required "schema" (Decoder.string d) = some r.schema :=
    holds.required (by simp) (Decoder.reads_string _)
  have tool : row.required "tool" (Tool.decode d) = some r.tool :=
    holds.required (by simp [lookup_cons_eq]) r.tool.reads
  have startedAt : row.required "started_at" (Timestamp.decode d) = some r.startedAt :=
    holds.required (by simp [lookup_cons_eq]) r.startedAt.reads
  have finishedAt : row.required "finished_at" (Timestamp.decode d) = some r.finishedAt :=
    holds.required (by simp [lookup_cons_eq]) r.finishedAt.reads
  have verdict : row.required "verdict" (Verdict.decode d) = some r.verdict :=
    holds.required (by simp [lookup_cons_eq]) r.verdict.reads
  have findings : row.required "findings" (Decoder.list Finding.decode d) = some r.findings :=
    holds.required (by simp [lookup_cons_eq])
      (Decoder.reads_list fun f mem => Finding.reads (h.findings f mem))
  have summary : row.required "data" (Summary.decode d) = some r.summary :=
    holds.required (by simp [lookup_cons_eq]) (Summary.reads h.summary)
  rw [encode, decode, found]
  simp [schema, tool, startedAt, finishedAt, verdict, findings, summary]

theorem printable_encode {r : Report} (h : r.Storable)
    (payloads : ∀ f ∈ r.findings, Printable Finding.payloadDepth f.payload) :
    Printable Node.maxDepth r.encode := by
  have findings : Printable (Node.maxDepth - 1) (.array (r.findings.map Finding.encode)) := by
    refine .array fun v v_mem => ?_
    obtain ⟨f, mem, rfl⟩ := List.mem_map.mp v_mem
    exact Finding.printable_encode (h.findings f mem).location (payloads f mem)
  have tool : Printable (Node.maxDepth - 1) r.tool.encode := by
    refine .object ?_
    rw [List.forall_mem_cons, List.forall_mem_singleton]
    exact ⟨.string _, .string _⟩
  refine .object ?_
  simp only [List.forall_mem_cons]
  exact ⟨.string _, tool, .string _, .string _, .string _, findings,
    Summary.printable_encode h.summary, List.forall_mem_nil _⟩

/-- The schema of a report is found before the report is read. -/
theorem namedSchema_encode (r : Report) : namedSchema r.encode.canonical = r.schema := by
  rw [namedSchema, encode, Row.member?_canonical]
  · rfl
  · have distinct : fields.Nodup := by decide
    exact distinct

/-- A report is read back from its text. -/
theorem parse_text {r : Report} (h : r.Storable)
    (payloads : ∀ f ∈ r.findings, Printable Finding.payloadDepth f.payload) :
    parse r.text = .ok r := by
  have kept : Json.parse? r.text = some r.encode.canonical :=
    Json.parse?_pretty (printable_encode h payloads)
  have read := reads h _ (Nat.le_refl _)
  rw [parse, kept]
  simp [namedSchema_encode, h.schema, Decoder.unbounded?, read]

/-- A value that names the schema has it as a member. -/
theorem member?_of_namedSchema {value : Json} (named : namedSchema value = schemaName) :
    value.member? "schema" = some (.string schemaName) := by
  have other : "" ≠ schemaName := by decide
  unfold namedSchema at named
  cases found : value.member? "schema" with
  | none =>
    rw [found] at named
    exact absurd named other
  | some v =>
    rw [found] at named
    cases v with
    | string s => exact congrArg (fun s => some (Json.string s)) named
    | null | bool | number | array | object => exact absurd named other

/-- A kept value that names the schema is read as a report with this schema. -/
theorem schema_of_decode {value : Json} {depth : Nat} {r : Report} (kept : value.canonical = value)
    (named : namedSchema value = schemaName) (h : decode depth (Node.ofJson value) = some r) :
    r.schema = schemaName := by
  have member := member?_of_namedSchema named
  obtain - | depth := depth
  · cases h
  simp only [decode, Option.bind_eq_bind, Option.bind_eq_some_iff] at h
  obtain ⟨row, found, schema, h_schema, tool, -, startedAt, -, finishedAt, -, verdict, -, findings,
    -, summary, -, same⟩ := h
  cases same
  -- A positional report has no member that could name its schema.
  cases value with
  | object members =>
    rw [Row.member?_of_canonical kept] at member
    rw [Row.required, Row.lookup_of_ofNode? found (by decide), member] at h_schema
    exact (Option.some.inj h_schema).symm
  | null | bool | number | string | array => cases member

/-- The findings and the figures of a report that was read are storable, and the payloads leave room
for what stands around them. -/
theorem findings_of_decode {depth : Nat} {node : Node} {r : Report}
    (h : decode depth node = some r) :
    (∀ f ∈ r.findings, f.Storable ∧ (Node.ofJson f.payload).height ≤ depth - 3) ∧
      r.summary.Fits := by
  obtain - | depth := depth
  · cases h
  simp only [decode, Option.bind_eq_bind, Option.bind_eq_some_iff] at h
  obtain ⟨row, -, schema, -, tool, -, startedAt, -, finishedAt, -, verdict, -, findings, h_findings,
    summary, h_summary, same⟩ := h
  cases same
  obtain ⟨node, read⟩ := Row.exists_of_required h_summary
  obtain ⟨list, read_list⟩ := Row.exists_of_required h_findings
  refine ⟨fun f mem => ?_, Summary.fits_of_decode read⟩
  obtain ⟨node, read⟩ := Decoder.exists_of_list read_list mem
  exact Finding.storable_of_decode read

/-- A report that was read is storable, and its payloads leave room for what stands around them. -/
theorem storable_of_parse {text : String} {r : Report} (h : parse text = .ok r) :
    r.Storable ∧ ∀ f ∈ r.findings, (Node.ofJson f.payload).height ≤ Finding.payloadDepth := by
  unfold parse at h
  split at h
  · cases h
  · next value kept =>
    split at h
    · next named =>
      split at h
      · next read =>
        cases h
        obtain ⟨node, -, kept⟩ := Option.bind_eq_some_iff.mp kept
        obtain ⟨canonical, height_le⟩ := Node.canonical_of_toJson? node kept
        obtain ⟨findings, summary⟩ := findings_of_decode read
        have schema := schema_of_decode canonical named read
        refine ⟨⟨schema, fun f mem => (findings f mem).1, summary⟩, ?_⟩
        exact fun f mem => Nat.le_trans (findings f mem).2 (Nat.sub_le_sub_right height_le 3)
      · cases h
    · cases h

end Report

end ImportBoundary
