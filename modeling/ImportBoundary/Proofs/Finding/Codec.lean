import ImportBoundary.Finding.Codec
import ImportBoundary.Proofs.Json.Document
import ImportBoundary.Proofs.Json.Record

/-!
# Reading findings back

A finding is read back from what is written of it (`Finding.reads`) if its place has numbers of 32 bits
and its payload is kept as it is (`Finding.Storable`). Findings that were read are like that
(`Finding.storable_of_decode`), apart from numbers in the payload that are no integers.
-/

namespace ImportBoundary

open Json (Decoder Node Printable Row ifSome lookup_ifSome map_fst_ifSome_sublist
  forall_mem_ifSome)

theorem Severity.reads (s : Severity) : Severity.decode.Reads s.encode s :=
  Decoder.reads_word (by cases s <;> decide)

theorem Verdict.reads (v : Verdict) : Verdict.decode.Reads v.encode v :=
  Decoder.reads_word (by cases v <;> decide)

/-- A number of 32 bits has no more than 64. -/
theorem le_maxSignificand {n : Nat} (h : n ≤ Decoder.maxNat32) : n ≤ Json.Numeral.maxSignificand :=
  Nat.le_trans h (by decide)

/-! ## Locations

The path of a location is always written, its line and column only if they are known.
-/

namespace Location

/-- The numbers of a location have 32 bits. -/
structure Fits (l : Location) : Prop where
  line : ∀ n ∈ l.line, n ≤ Decoder.maxNat32
  column : ∀ n ∈ l.column, n ≤ Decoder.maxNat32

theorem reads {l : Location} (h : l.Fits) : decode.Reads l.encode l := by
  intro depth bound
  obtain ⟨d, row, rfl, found, holds⟩ := Row.exists_row fields (by decide) bound (by
    rw [List.map_append, List.map_append]
    have head := List.Sublist.refl ["path"]
    exact (head.append map_fst_ifSome_sublist).append map_fst_ifSome_sublist)
  have path : row.required "path" (Decoder.string d) = some l.path.text :=
    holds.required (by simp) (Decoder.reads_string _)
  have line : row.optional "line" (Decoder.nullable Decoder.nat32 d) = some l.line :=
    holds.optional (by simp [lookup_cons_eq, List.lookup_append, lookup_ifSome])
      (fun n mem => Decoder.reads_nat32 (h.line n mem)) (fun _ _ => nofun)
  have column : row.optional "col" (Decoder.nullable Decoder.nat32 d) = some l.column :=
    holds.optional (by simp [lookup_cons_eq, List.lookup_append, lookup_ifSome])
      (fun n mem => Decoder.reads_nat32 (h.column n mem)) (fun _ _ => nofun)
  rw [encode, decode, found]
  simp [path, line, column]

/-- The numbers of a location that was read have 32 bits. -/
theorem fits_of_decode {depth : Nat} {node : Node} {l : Location} (h : decode depth node = some l) :
    l.Fits := by
  obtain - | depth := depth
  · cases h
  simp only [decode, Option.bind_eq_bind, Option.bind_eq_some_iff] at h
  obtain ⟨row, -, path, -, line, h_line, column, h_column, same⟩ := h
  cases same
  constructor
  · rintro n rfl
    obtain ⟨node, read⟩ := Row.exists_of_optional h_line
    exact Decoder.le_of_nat32 read
  · rintro n rfl
    obtain ⟨node, read⟩ := Row.exists_of_optional h_column
    exact Decoder.le_of_nat32 read

theorem printable_encode {l : Location} (h : l.Fits) {depth : Nat} :
    Printable (depth + 1) l.encode := by
  refine .object ?_
  simp only [List.forall_mem_append, List.forall_mem_singleton, forall_mem_ifSome]
  exact ⟨⟨.string _, fun n mem => .ofNat (le_maxSignificand (h.line n mem))⟩,
    fun n mem => .ofNat (le_maxSignificand (h.column n mem))⟩

end Location

/-! ## Findings

The fields around the payload are read as those of a location are. The payload itself may be any value,
and reading puts the members of its objects in order.
-/

namespace Finding

/-- The number of arrays and objects inside each other that the payload of a reported finding may
have: the finding, the list of findings and the report stand around it. -/
def payloadDepth : Nat := Node.maxDepth - 3

/-- A finding that is read as it is kept. -/
structure Storable (f : Finding) : Prop where
  location : ∀ l ∈ f.location, l.Fits
  canonical : f.payload.canonical = f.payload

/-- The payload as it is written. -/
def written? : Json → Option Json
  | .null => none
  | payload => some payload

theorem payloadMember_eq (payload : Json) :
    payloadMember payload = ifSome "data" id (written? payload) := by
  cases payload <;> rfl

theorem eq_of_mem_written? {payload v : Json} (h : v ∈ written? payload) : v = payload := by
  cases payload <;> cases h <;> rfl

theorem eq_null_of_written? {payload : Json} (h : written? payload = none) : payload = .null := by
  cases payload <;> first | rfl | cases h

/-- A finding is read back. -/
theorem reads {f : Finding} (h : f.Storable) : decode.Reads f.encode f := by
  intro depth bound
  obtain ⟨d, row, rfl, found, holds⟩ := Row.exists_row fields (by decide) bound (by
    simp only [List.map_append, payloadMember_eq]
    have heads := List.Sublist.refl ["severity", "check_id", "code", "message"]
    exact ((((heads.append map_fst_ifSome_sublist).append map_fst_ifSome_sublist).append
      map_fst_ifSome_sublist).append map_fst_ifSome_sublist).append map_fst_ifSome_sublist)
  -- Every field is looked up by its name among the members that are written.
  have severity : row.required "severity" (Severity.decode d) = some f.severity :=
    holds.required (by simp) f.severity.reads
  have check : row.required "check_id" (Decoder.string d) = some f.check :=
    holds.required (by simp [lookup_cons_eq]) (Decoder.reads_string _)
  have code : row.required "code" (Decoder.string d) = some f.code :=
    holds.required (by simp [lookup_cons_eq]) (Decoder.reads_string _)
  have message : row.required "message" (Decoder.string d) = some f.message :=
    holds.required (by simp [lookup_cons_eq]) (Decoder.reads_string _)
  have location : row.optional "location" (Decoder.nullable Location.decode d) = some f.location :=
    holds.optional (by simp [lookup_cons_eq, List.lookup_append, lookup_ifSome, payloadMember_eq])
      (fun l mem => Location.reads (h.location l mem)) (fun _ _ => nofun)
  have help : row.optional "help" (Decoder.nullable Decoder.string d) = some f.help :=
    holds.optional (by simp [lookup_cons_eq, List.lookup_append, lookup_ifSome, payloadMember_eq])
      (fun _ _ => Decoder.reads_string _) (fun _ _ => nofun)
  have url : row.optional "url" (Decoder.nullable Decoder.string d) = some f.url :=
    holds.optional (by simp [lookup_cons_eq, List.lookup_append, lookup_ifSome, payloadMember_eq])
      (fun _ _ => Decoder.reads_string _) (fun _ _ => nofun)
  have fingerprint :
      row.optional "fingerprint" (Decoder.nullable Decoder.string d) = some f.fingerprint :=
    holds.optional (by simp [lookup_cons_eq, List.lookup_append, lookup_ifSome, payloadMember_eq])
      (fun _ _ => Decoder.reads_string _) (fun _ _ => nofun)
  have payload : row.defaulted "data" .null (Decoder.free d) = some f.payload :=
    holds.defaulted (o := written? f.payload)
      (by simp [lookup_cons_eq, List.lookup_append, lookup_ifSome, payloadMember_eq])
      eq_null_of_written? (by
        intro v mem
        obtain rfl := eq_of_mem_written? mem
        have reads := Decoder.reads_free f.payload
        rwa [h.canonical] at reads)
  rw [encode, decode, found]
  simp [severity, check, code, message, location, help, url, fingerprint, payload]

/-- A finding is written and kept if its payload is. -/
theorem printable_encode {f : Finding} (fits : ∀ l ∈ f.location, l.Fits) {depth : Nat}
    (h : Printable (depth + 1) f.payload) : Printable (depth + 2) f.encode := by
  refine .object ?_
  simp only [List.forall_mem_append, payloadMember_eq, forall_mem_ifSome]
  refine ⟨⟨⟨⟨⟨?_, ?_⟩, fun _ _ => .string _⟩, fun _ _ => .string _⟩, fun _ _ => .string _⟩, ?_⟩
  · rw [List.forall_mem_cons, List.forall_mem_cons, List.forall_mem_cons, List.forall_mem_singleton]
    exact ⟨.string _, .string _, .string _, .string _⟩
  · exact fun l mem => Location.printable_encode (fits l mem)
  · rintro v mem
    obtain rfl := eq_of_mem_written? mem
    exact h

/-- A finding that was read is storable, and its payload is within the bound of the reader. -/
theorem storable_of_decode {depth : Nat} {node : Node} {f : Finding}
    (h : decode depth node = some f) :
    f.Storable ∧ (Node.ofJson f.payload).height ≤ depth - 1 := by
  obtain - | depth := depth
  · cases h
  simp only [decode, Option.bind_eq_bind, Option.bind_eq_some_iff] at h
  obtain ⟨row, -, severity, -, check, -, code, -, message, -, location, h_location, help, -, url, -,
    fingerprint, -, payload, h_payload, same⟩ := h
  cases same
  have kept : payload.canonical = payload ∧ (Node.ofJson payload).height ≤ depth := by
    rcases Row.eq_or_exists_of_defaulted h_payload with rfl | ⟨node, read⟩
    · exact ⟨rfl, Nat.zero_le _⟩
    · exact Node.canonical_of_toJson? node read
  refine ⟨⟨?_, kept.1⟩, kept.2⟩
  rintro l rfl
  obtain ⟨node, read⟩ := Row.exists_of_optional h_location
  exact Location.fits_of_decode read

end Finding

end ImportBoundary
