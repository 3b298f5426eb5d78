import ImportBoundary.Json.Decode
import ImportBoundary.Proofs.Json.Canonical

/-!
# Reading records back

A record is written as an object with one member for each field that is not left out. Kept in
canonical form it has its members in another order, but a reader asks for them by name and finds in
each what was written (`exists_row`). So a record is read back if each of its fields is
(`Row.Holds.required`, `Row.Holds.optional`).
-/

namespace ImportBoundary.Json

variable {α β : Type} {v : Json} {a : α} {value : Decoder α}

/-! ## Values

`Decoder.Reads` is about values that are kept in canonical form, as they are when a report is read by
way of a free-form value.
-/

namespace Decoder

/-- A value that is kept is read as `a`, under any bound that it stays within. -/
def Reads (value : Decoder α) (v : Json) (a : α) : Prop :=
  ∀ depth, (Node.ofJson v.canonical).height ≤ depth → value depth (Node.ofJson v.canonical) = some a

theorem reads_string (s : String) : Reads string (.string s) s :=
  fun _ _ => rfl

theorem reads_nat32 {n : Nat} (h : n ≤ maxNat32) : Reads nat32 (.ofNat n) n :=
  fun _ _ => if_pos h

theorem reads_word {meaning : String → Option α} {s : String} (h : meaning s = some a) :
    Reads (word meaning) (.string s) a :=
  fun _ _ => h

/-- A free-form value is read as it is kept. -/
theorem reads_free (v : Json) : Reads free v v.canonical := by
  intro depth h
  rw [free, Node.toJson?_ofJson v.canonical h, v.canonical_canonical.1]

theorem Reads.nullable (h : Reads value v a) (ne : v ≠ .null) :
    Reads (nullable value) v (some a) := by
  intro depth bound
  have read := h depth bound
  cases v with
  | null => exact absurd rfl ne
  | bool | number | string | array | object => exact congrArg (Option.map some) read

/-- A list is read if its items are. -/
theorem reads_list {encode : α → Json} {items : List α}
    (h : ∀ a ∈ items, Reads value (encode a) a) :
    Reads (list value) (.array (items.map encode)) items := by
  have each (depth : Nat)
      (bound : Node.itemsHeight (Node.ofItems (canonicalItems (items.map encode))) ≤ depth) :
      (Node.ofItems (canonicalItems (items.map encode))).mapM (value depth) = some items := by
    induction items with
    | nil => rfl
    | cons a rest ih =>
      obtain ⟨first, others⟩ := List.forall_mem_cons.mp h
      obtain ⟨bound, bound_others⟩ := Nat.max_le.mp bound
      rw [List.map_cons, canonicalItems, Node.ofItems, List.mapM_cons, first depth bound,
        ih others bound_others]
      rfl
  rintro (- | depth) bound
  · exact absurd bound (Nat.not_succ_le_zero _)
  · exact each depth (Nat.le_of_succ_le_succ bound)

/-- A value that is there was read. -/
theorem of_nullable {depth : Nat} {node : Node} (h : nullable value depth node = some (some a)) :
    value depth node = some a := by
  unfold nullable at h
  split at h
  · cases h
  · obtain ⟨a', read, same⟩ := Option.map_eq_some_iff.mp h
    cases same
    exact read

/-- The items of a list were read under a smaller bound. -/
theorem exists_of_list {depth : Nat} {node : Node} {items : List α}
    (h : list value depth node = some items) (mem : a ∈ items) :
    ∃ item, value (depth - 1) item = some a := by
  cases node with
  | array nodes =>
    obtain - | depth := depth
    · cases h
    have read : nodes.mapM (value depth) = some items := h
    clear h
    induction nodes generalizing items with
    | nil =>
      cases read
      cases mem
    | cons node rest ih =>
      rw [List.mapM_cons] at read
      obtain ⟨first, h_first, read⟩ := Option.bind_eq_some_iff.mp read
      obtain ⟨others, h_others, same⟩ := Option.bind_eq_some_iff.mp read
      cases same
      rcases List.mem_cons.mp mem with rfl | mem
      · exact ⟨node, h_first⟩
      · exact ih mem h_others
  | null | bool | number | string | object => cases h

theorem le_of_nat32 {depth n : Nat} {node : Node} (h : nat32 depth node = some n) :
    n ≤ maxNat32 := by
  unfold nat32 at h
  split at h
  · split at h
    · next le =>
      cases h
      exact le
    · cases h
  · cases h

end Decoder

/-! ## Members that may be left out

A member that is left out is not found, and the reader takes the default for it.
-/

section

variable {encode : α → Json} {o : Option α} {name : String}

theorem lookup_ifSome {asked : String} :
    (ifSome name encode o).lookup asked = if asked = name then o.map encode else none := by
  cases o with
  | none => exact (ite_self none).symm
  | some a => exact lookup_cons_eq name (encode a) []

theorem map_fst_ifSome_sublist : ((ifSome name encode o).map Prod.fst).Sublist [name] := by
  cases o with
  | none => exact List.nil_sublist _
  | some a => exact List.Sublist.refl _

theorem forall_mem_ifSome {p : String × Json → Prop} :
    (∀ m ∈ ifSome name encode o, p m) ↔ ∀ a ∈ o, p (name, encode a) := by
  cases o <;> simp [ifSome]

end

/-! ## Records

All names of the members are fields, and none occurs twice. Then the row of fields that the reader
makes has the members under their names, in whatever order they were kept.
-/

namespace Row

variable {members : List (String × Json)} {name : String}

/-- The fields of a record are its members as they are kept; they stay within a bound. -/
structure Holds (row : Row) (members : List (String × Json)) (depth : Nat) : Prop where
  positional : row.positional = false
  lookup (name : String) :
    row.fields.lookup name = (members.lookup name).map fun v => Node.ofJson v.canonical
  bound (name : String) (node : Node) : row.fields.lookup name = some node → node.height ≤ depth

theorem named?_ofMembers (members : List (String × Json)) :
    named? (Node.ofMembers members) = some (members.map fun m => (m.1, Node.ofJson m.2)) := by
  induction members with
  | nil => rfl
  | cons m rest ih => rw [Node.ofMembers, named?, ih, Option.map_some, List.map_cons]

theorem distinct_of_nodup {fields : List (String × Node)} (h : (fields.map Prod.fst).Nodup) :
    distinct fields := by
  induction fields with
  | nil => rfl
  | cons field rest ih =>
    obtain ⟨name, node⟩ := field
    rw [List.map_cons, List.nodup_cons] at h
    have absent : rest.lookup name = none := by
      refine List.lookup_eq_none_iff.mpr fun p mem => ?_
      exact bne_iff_ne.mpr fun same => h.1 (List.mem_map.mpr ⟨p, mem, same.symm⟩)
    rw [distinct, absent, ih h.2]
    rfl

theorem lookup_map (f : α → β) (entries : List (String × α)) (name : String) :
    (entries.map fun e => (e.1, f e.2)).lookup name = (entries.lookup name).map f := by
  induction entries with
  | nil => rfl
  | cons e rest ih =>
    rw [List.map_cons, lookup_cons_eq, lookup_cons_eq, ih]
    split <;> rfl

/-- The fields of an object as it is kept. -/
def kept (members : List (String × Json)) : Row :=
  ⟨(arrange (canonicalMembers members)).map fun m => (m.1, Node.ofJson m.2), false⟩

theorem map_fst_canonicalMembers (members : List (String × Json)) :
    (canonicalMembers members).map Prod.fst = members.map Prod.fst := by
  rw [canonicalMembers_eq_map, List.map_map]
  rfl

/-- A member is found under its name, in canonical form. -/
theorem lookup_arrange (distinct : (members.map Prod.fst).Nodup) (name : String) :
    (arrange (canonicalMembers members)).lookup name = (members.lookup name).map canonical := by
  have distinct' : ((canonicalMembers members).map Prod.fst).Nodup := by
    rwa [map_fst_canonicalMembers]
  rw [arrange, ← NameMap.get?, NameMap.get?_ofList, lookup_reverse distinct',
    canonicalMembers_eq_map, lookup_map]

theorem member?_canonical (distinct : (members.map Prod.fst).Nodup) (name : String) :
    member? name (canonical (.object members)) = (members.lookup name).map canonical := by
  rw [canonical, sorted, member?, lookup_reverse (nodup_of_rising (rising_arrange _)),
    lookup_arrange distinct]

/-- In an object as it is kept no name occurs twice. -/
theorem member?_of_canonical (h : canonical (.object members) = .object members) (name : String) :
    member? name (.object members) = members.lookup name := by
  have rising := rising_arrange (canonicalMembers members)
  rw [canonical, sorted, Json.object.injEq] at h
  rw [h] at rising
  rw [member?, lookup_reverse (nodup_of_rising rising)]

theorem lookup_kept (distinct : (members.map Prod.fst).Nodup) (name : String) :
    (kept members).fields.lookup name =
      (members.lookup name).map fun v => Node.ofJson v.canonical := by
  rw [kept, lookup_map, lookup_arrange distinct, Option.map_map]
  rfl

/-- An object whose members are fields of a record, each there once, is read as one. -/
theorem ofNode?_object {names : List String} (distinct : (members.map Prod.fst).Nodup)
    (listed : ∀ m ∈ members, m.1 ∈ names) :
    ofNode? names (Node.ofJson (.object members)) =
      some ⟨members.map fun m => (m.1, Node.ofJson m.2), false⟩ := by
  let fields := members.map fun m => (m.1, Node.ofJson m.2)
  have known : fields.filter (fun field => names.contains field.1) = fields := by
    refine List.filter_eq_self.mpr fun field field_mem => ?_
    obtain ⟨m, mem, rfl⟩ := List.mem_map.mp field_mem
    exact List.contains_iff_mem.mpr (listed m mem)
  have once : Row.distinct fields := by
    refine distinct_of_nodup ?_
    rwa [List.map_map]
  rw [Node.ofJson, ofNode?, ofMembers?, named?_ofMembers]
  exact (congrArg (fun fields => if Row.distinct fields then some (Row.mk fields false) else none)
    known).trans (if_pos once)

/-- An object as it is kept has each field once. -/
theorem ofNode?_kept {names : List String} (listed : ∀ m ∈ members, m.1 ∈ names) :
    ofNode? names (Node.ofJson (canonical (.object members))) = some (kept members) := by
  rw [canonical, sorted]
  refine ofNode?_object (nodup_of_rising (rising_arrange _)) fun k k_mem => ?_
  have member := mem_of_mem_arrange k_mem
  rw [canonicalMembers_eq_map] at member
  obtain ⟨m, mem, rfl⟩ := List.mem_map.mp member
  exact listed m mem

/-- The members of a record are found, each under its name. -/
theorem exists_row (names : List String) (distinct : names.Nodup) {depth : Nat}
    (h : (Node.ofJson (canonical (.object members))).height ≤ depth)
    (listed : (members.map Prod.fst).Sublist names) :
    ∃ d row, depth = d + 1 ∧ ofNode? names (Node.ofJson (canonical (.object members))) = some row ∧
      row.Holds members d := by
  obtain - | d := depth
  · exact absurd h (Nat.not_succ_le_zero _)
  have bound := Node.membersHeight_le_iff.mp (Nat.le_of_succ_le_succ h)
  have known : ∀ m ∈ members, m.1 ∈ names := fun m mem =>
    listed.subset (List.mem_map.mpr ⟨m, mem, rfl⟩)
  refine ⟨d, kept members, rfl, ofNode?_kept known, rfl, lookup_kept (listed.nodup distinct), ?_⟩
  intro name node found
  obtain ⟨before, after, split, -⟩ := List.lookup_eq_some_iff.mp found
  have field : (name, node) ∈ (kept members).fields :=
    split ▸ List.mem_append_right _ List.mem_cons_self
  obtain ⟨m, mem, same⟩ := List.mem_map.mp field
  cases same
  exact bound m mem

namespace Holds

variable {row : Row} {depth : Nat}

/-- A field that is found is read. -/
theorem required (h : row.Holds members depth) (found : members.lookup name = some v)
    (reads : value.Reads v a) : row.required name (value depth) = some a := by
  have field : row.fields.lookup name = some (Node.ofJson v.canonical) := by
    rw [h.lookup, found, Option.map_some]
  rw [Row.required, field, Option.bind_some]
  exact reads depth (h.bound name _ field)

/-- A field that may be left out is read, and as its default if it was left out. -/
theorem defaulted {o : Option Json} {default : α} (h : row.Holds members depth)
    (found : members.lookup name = o) (left_out : o = none → a = default)
    (reads : ∀ v ∈ o, value.Reads v a) : row.defaulted name default (value depth) = some a := by
  have field := h.lookup name
  rw [found] at field
  unfold Row.defaulted
  cases o with
  | none => rw [field, left_out rfl, Option.map_none]
  | some v =>
    rw [Option.map_some] at field
    rw [field]
    exact reads v rfl depth (h.bound name _ field)

/-- A field that may be without a value is read. -/
theorem optional {o : Option α} {encode : α → Json} (h : row.Holds members depth)
    (found : members.lookup name = o.map encode)
    (reads : ∀ a ∈ o, value.Reads (encode a) a) (ne : ∀ a ∈ o, encode a ≠ .null) :
    row.optional name (Decoder.nullable value depth) = some o := by
  rw [Row.optional, h.positional, if_neg Bool.false_ne_true]
  refine h.defaulted found (Option.map_eq_none_iff.mp ·) ?_
  intro v mem
  obtain ⟨a, rfl, rfl⟩ := Option.map_eq_some_iff.mp mem
  exact (reads a rfl).nullable (ne a rfl)

end Holds

/-! ## Fields that were read

The other direction: what is known of the value of a field if the record was read.
-/

/-- Members that are no fields do not hide a field. -/
theorem lookup_of_ofNode? {names : List String} {row : Row}
    (h : ofNode? names (Node.ofJson (.object members)) = some row) (listed : name ∈ names) :
    row.fields.lookup name = (members.lookup name).map Node.ofJson := by
  -- Only members that are no fields are dropped, and those have other names.
  have filtered (fields : List (String × Node)) :
      (fields.filter fun field => names.contains field.1).lookup name = fields.lookup name := by
    induction fields with
    | nil => rfl
    | cons field rest ih =>
      obtain ⟨n, node⟩ := field
      by_cases known : names.contains n
      · simp only [List.filter_cons, if_pos known, lookup_cons_eq, ih]
      · have differs : name ≠ n := by
          rintro rfl
          exact known (List.contains_iff_mem.mpr listed)
        simp only [List.filter_cons, if_neg known, lookup_cons_eq, if_neg differs, ih]
  rw [Node.ofJson, ofNode?, ofMembers?, named?_ofMembers] at h
  simp only [Option.bind_eq_bind, Option.bind_some] at h
  split at h
  · cases h
    exact (filtered _).trans (lookup_map _ _ _)
  · cases h

/-- A field that has a default was left out, or it was read. -/
theorem eq_or_exists_of_defaulted {row : Row} {depth : Nat} {default : α}
    (h : row.defaulted name default (value depth) = some a) :
    a = default ∨ ∃ node, value depth node = some a := by
  unfold Row.defaulted at h
  split at h
  · cases h
    exact .inl rfl
  · next node _ => exact .inr ⟨node, h⟩

/-- A field with a value was read. -/
theorem exists_of_required {row : Row} {depth : Nat}
    (h : row.required name (value depth) = some a) : ∃ node, value depth node = some a := by
  obtain ⟨node, -, read⟩ := Option.bind_eq_some_iff.mp h
  exact ⟨node, read⟩

/-- A field that may be without a value and has one was read. -/
theorem exists_of_optional {row : Row} {depth : Nat}
    (h : row.optional name (Decoder.nullable value depth) = some (some a)) :
    ∃ node, value depth node = some a := by
  have field : ∃ node, Decoder.nullable value depth node = some (some a) := by
    unfold Row.optional at h
    split at h
    · exact exists_of_required h
    · rcases eq_or_exists_of_defaulted h with left_out | read
      · cases left_out
      · exact read
  obtain ⟨node, read⟩ := field
  exact ⟨node, Decoder.of_nullable read⟩

end Row

end ImportBoundary.Json
