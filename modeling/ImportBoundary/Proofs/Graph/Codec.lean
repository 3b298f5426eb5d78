import ImportBoundary.Graph
import ImportBoundary.Proofs.Json.Reordered

/-!
# Reading graphs back

A graph is read back if the numbers of its records have 32 bits (`ImportRecord.Fits`), and they have if
the graph was read (`ImportGraph.fits_of_parse`).

The reader takes no number of more than 32 bits, and no string with half a surrogate pair in it, so
every graph that was read can be written and read again.
-/

namespace ImportBoundary

open Json (Decoder Node Row lookup_ifSome map_fst_ifSome_sublist forall_mem_ifSome)

/-- The numbers of a record have 32 bits. -/
structure ImportRecord.Fits (record : ImportRecord) : Prop where
  line : ∀ n ∈ record.line, n ≤ Decoder.maxNat32
  column : ∀ n ∈ record.column, n ≤ Decoder.maxNat32

theorem ImportRecord.fits_of_decode {depth : Nat} {node : Node} {record : ImportRecord}
    (h : decode depth node = some record) : record.Fits := by
  obtain - | depth := depth
  · cases h
  simp only [decode, Option.bind_eq_bind, Option.bind_eq_some_iff] at h
  obtain ⟨row, -, file, -, importText, -, line, h_line, column, h_column, same⟩ := h
  cases same
  have fits {name : String} {o : Option Nat}
      (read : row.defaulted name none (Decoder.nullable Decoder.nat32 depth) = some o) :
      ∀ n ∈ o, n ≤ Decoder.maxNat32 := by
    rintro n rfl
    rcases Row.eq_or_exists_of_defaulted read with left_out | ⟨node, read⟩
    · cases left_out
    · exact Decoder.le_of_nat32 (Decoder.of_nullable read)
  exact ⟨fits h_line, fits h_column⟩

theorem ImportGraph.fits_of_decode {depth : Nat} {node : Node} {g : ImportGraph}
    (h : decode depth node = some g) : ∀ record ∈ g.records, record.Fits := by
  obtain - | depth := depth
  · cases h
  simp only [decode, Option.bind_eq_bind, Option.bind_eq_some_iff] at h
  obtain ⟨row, -, schema, -, records, h_records, same⟩ := h
  cases same
  intro record mem
  rcases Row.eq_or_exists_of_defaulted h_records with rfl | ⟨node, read⟩
  · cases mem
  · obtain ⟨node, read⟩ := Decoder.exists_of_list read mem
    exact ImportRecord.fits_of_decode read

theorem ImportGraph.fits_of_parse {text : String} {g : ImportGraph} (h : parse text = .ok g) :
    ∀ record ∈ g.records, record.Fits := by
  -- A graph with a foreign schema is refused after it was read.
  have read : decode.parse? text = some g := by
    unfold parse at h
    split at h
    · cases h
    · next g' read =>
      have same : g' = g := by
        split at h
        · exact Except.ok.inj h
        · split at h
          · exact Except.ok.inj h
          · cases h
      rw [read, same]
  obtain ⟨node, -, read⟩ := Option.bind_eq_some_iff.mp read
  exact fits_of_decode read

/-! ## Graphs that were written

Every field is read back on its own, and the fields that were left out are read as their defaults.
-/

theorem ImportRecord.recovers {record : ImportRecord} (fits : record.Fits) :
    decode.Recovers record.encode record := by
  apply Decoder.recovers_record fields (by decide)
  · simp only [List.map_append]
    exact ((List.Sublist.refl ["file", "import"]).append map_fst_ifSome_sublist).append
      map_fst_ifSome_sublist
  · simp only [List.forall_mem_append, List.forall_mem_cons, forall_mem_ifSome]
    exact ⟨⟨⟨.string _, .string _, List.forall_mem_nil _⟩,
      fun n mem => (Decoder.recovers_nat32 (fits.line n mem)).whole⟩,
      fun n mem => (Decoder.recovers_nat32 (fits.column n mem)).whole⟩
  · intro depth nodes row found shows
    have file : row.required "file" (Decoder.string depth) = some record.file :=
      shows.required (by simp) (Decoder.recovers_string _)
    have importText : row.required "import" (Decoder.string depth) = some record.importText :=
      shows.required (by simp [lookup_cons_eq]) (Decoder.recovers_string _)
    have line : row.defaulted "line" none (Decoder.nullable Decoder.nat32 depth) =
        some record.line :=
      shows.nullable_nat32 (by simp [lookup_cons_eq, List.lookup_append, lookup_ifSome]) fits.line
    have column : row.defaulted "col" none (Decoder.nullable Decoder.nat32 depth) =
        some record.column :=
      shows.nullable_nat32 (by simp [lookup_cons_eq, List.lookup_append, lookup_ifSome])
        fits.column
    rw [decode, Row.ofNode?, found]
    simp [file, importText, line, column]

theorem ImportGraph.recovers {g : ImportGraph} (fits : ∀ record ∈ g.records, record.Fits) :
    decode.Recovers g.encode g := by
  have records : (Decoder.list ImportRecord.decode).Recovers
      (.array (g.records.map ImportRecord.encode)) g.records :=
    Decoder.recovers_list fun record mem => ImportRecord.recovers (fits record mem)
  apply Decoder.recovers_record fields (by decide)
  · rw [List.map_append]
    exact map_fst_ifSome_sublist.append (List.Sublist.refl ["edges"])
  · simp only [List.forall_mem_append, List.forall_mem_singleton, forall_mem_ifSome]
    exact ⟨fun _ _ => .string _, records.whole⟩
  · intro depth nodes row found shows
    have schema : row.defaulted "schema" none (Decoder.nullable Decoder.string depth) =
        some g.schema :=
      shows.nullable_string (by simp [lookup_cons_eq, List.lookup_append, lookup_ifSome])
    have edges : row.defaulted "edges" [] (Decoder.list ImportRecord.decode depth) =
        some g.records :=
      shows.written (by simp [List.lookup_append, lookup_ifSome]) records
    rw [decode, Row.ofNode?, found]
    simp [schema, edges]

end ImportBoundary
