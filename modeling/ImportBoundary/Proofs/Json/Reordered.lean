import Mathlib.Data.List.Forall2
import ImportBoundary.Proofs.Json.Document
import ImportBoundary.Proofs.Json.Record

/-!
# Values in any order

A value is written in one order, but the members of its objects mean the same in any other
(`Reordered`). A decoder recovers a typed value from what was written if it reads it whatever the order
(`Decoder.Recovers`), and then also from the text (`Decoder.Recovers.readsBack`). A record is recovered
if its fields are (`Decoder.recovers_record`), each of which is found by its name (`Row.Shows`).
-/

namespace ImportBoundary.Json

/-- The same value, with the members of its objects in some order. In an object no name is meant to
occur twice: the members are compared as they are found under their names. -/
inductive Reordered : Json → Json → Prop
  | null : Reordered .null .null
  | bool (b : Bool) : Reordered (.bool b) (.bool b)
  | number (n : Number) : Reordered (.number n) (.number n)
  | string (s : String) : Reordered (.string s) (.string s)
  | array {items' items : List Json} :
      List.Forall₂ Reordered items' items → Reordered (.array items') (.array items)
  | object {members' members : List (String × Json)} :
      (members'.map Prod.fst).Perm (members.map Prod.fst) →
      (∀ name w v, members'.lookup name = some w → members.lookup name = some v →
        Reordered w v) →
      Reordered (.object members') (.object members)

namespace Reordered

mutual

theorem refl : (v : Json) → v.Reordered v
  | .null => .null
  | .bool b => .bool b
  | .number n => .number n
  | .string s => .string s
  | .array items => .array (refl_items items)
  | .object members => .object (.refl _) fun name w v found' found => by
    rw [found] at found'
    cases found'
    exact refl_members members name _ found

theorem refl_items : (items : List Json) → List.Forall₂ Reordered items items
  | [] => .nil
  | item :: rest => .cons (refl item) (refl_items rest)

theorem refl_members : (members : List (String × Json)) → (name : String) → (v : Json) →
    members.lookup name = some v → v.Reordered v
  | [], _, _, found => nomatch found
  | (n, value) :: rest, name, v, found => by
    rw [lookup_cons_eq] at found
    split at found
    · cases found
      exact refl value
    · exact refl_members rest name v found

end

/-- Under each name there are the same values, or none. -/
theorem lookup {members' members : List (String × Json)}
    (h : Reordered (.object members') (.object members)) (name : String) :
    Option.Rel Reordered (members'.lookup name) (members.lookup name) := by
  cases h with
  | object names values =>
    have listed : name ∈ members'.map Prod.fst ↔ name ∈ members.map Prod.fst := names.mem_iff
    rw [← lookup_isSome_iff_mem, ← lookup_isSome_iff_mem] at listed
    cases found' : members'.lookup name with
    | none =>
      cases found : members.lookup name with
      | none => exact .none
      | some v => simp [found', found] at listed
    | some w =>
      cases found : members.lookup name with
      | none => simp [found', found] at listed
      | some v => exact .some (values name w v found' found)

end Reordered

variable {α β : Type} {v : Json} {a : α} {value : Decoder α}

/-! ## Decoders

A decoder looks members up by name, and so the order in which it finds them does not matter to it.
-/

namespace Decoder

/-- A typed value is read from a value in whatever order, under any bound that the value stays within;
the numbers in it are integers of 64 bits. -/
structure Recovers (value : Decoder α) (v : Json) (a : α) : Prop where
  reads : ∀ w, w.Reordered v → ∀ depth, (Node.ofJson w).height ≤ depth →
    value depth (Node.ofJson w) = some a
  whole : v.Whole

theorem recovers_string (s : String) : Recovers string (.string s) s := by
  constructor
  · intro w same depth _
    cases same
    rfl
  · exact .string s

theorem recovers_bool (b : Bool) : Recovers bool (.bool b) b := by
  constructor
  · intro w same depth _
    cases same
    rfl
  · exact .bool b

theorem recovers_nat32 {n : Nat} (h : n ≤ maxNat32) : Recovers nat32 (.ofNat n) n := by
  constructor
  · intro w same depth _
    cases same
    exact if_pos h
  · have le : n ≤ Numeral.maxSignificand := Nat.le_trans h (by decide)
    exact .number ⟨by omega, by omega⟩

namespace Recovers

theorem nullable (h : Recovers value v a) (ne : v ≠ .null) :
    Recovers (nullable value) v (some a) := by
  refine ⟨?_, h.whole⟩
  intro w same depth bound
  have read := h.reads w same depth bound
  cases same with
  | null => exact absurd rfl ne
  | bool | number | string | array | object => exact congrArg (Option.map some) read

/-- What is read more than once can be kept. -/
theorem kept (h : Recovers value v a) : Recovers (kept value) v a := by
  refine ⟨?_, h.whole⟩
  intro w same depth bound
  rw [Decoder.kept, Node.toJson?_ofJson w bound, Option.isSome_some, if_pos rfl]
  exact h.reads w same depth bound

end Recovers

theorem recovers_list {encode : α → Json} {items : List α}
    (h : ∀ a ∈ items, Recovers value (encode a) a) :
    Recovers (list value) (.array (items.map encode)) items := by
  -- Arrays keep their order, so the items are recovered one by one, each from a text of its own.
  have each (depth : Nat) (written : List Json)
      (same : List.Forall₂ Reordered written (items.map encode))
      (bound : Node.itemsHeight (Node.ofItems written) ≤ depth) :
      (Node.ofItems written).mapM (value depth) = some items := by
    induction items generalizing written with
    | nil =>
      cases same
      rfl
    | cons a rest ih =>
      obtain ⟨first, others⟩ := List.forall_mem_cons.mp h
      cases same with
      | cons same same_others =>
        obtain ⟨bound, bound_others⟩ := Nat.max_le.mp bound
        rw [Node.ofItems, List.mapM_cons, first.reads _ same depth bound,
          ih others _ same_others bound_others]
        rfl
  constructor
  · rintro w same (- | depth) bound
    · cases same
      exact absurd bound (Nat.not_succ_le_zero _)
    · cases same with
      | array same => exact each depth _ same (Nat.le_of_succ_le_succ bound)
  · refine .array fun item mem => ?_
    obtain ⟨a, mem_items, rfl⟩ := List.mem_map.mp mem
    exact (h a mem_items).whole

theorem recovers_texts (texts : List String) :
    Recovers (list string) (.array (texts.map .string)) texts :=
  recovers_list fun s _ => recovers_string s

theorem map_object (depth : Nat) (members : List (String × Json)) :
    map value (depth + 1) (Node.ofJson (.object members)) =
      (members.mapM fun k => (value depth (Node.ofJson k.2)).map fun a => (k.1, a)).map
        NameMap.ofList := by
  have nodes : Node.ofMembers members = members.map fun k => (some k.1, Node.ofJson k.2) := by
    induction members with
    | nil => rfl
    | cons k rest ih => rw [Node.ofMembers, ih, List.map_cons]
  rw [Node.ofJson, map, nodes, List.mapM_map]
  simp only [Function.comp_def, Option.bind_eq_bind, Option.bind_some, bind_pure_comp,
    Option.map_eq_map]

/-- Members that stand for entries are read as these. -/
theorem exists_mapM_members {entries : List (String × α)} {depth : Nat} :
    (members : List (String × Json)) →
    (∀ k ∈ members, ∃ a, (k.1, a) ∈ entries ∧ value depth (Node.ofJson k.2) = some a) →
    ∃ read,
      (members.mapM fun k => (value depth (Node.ofJson k.2)).map fun a => (k.1, a)) = some read ∧
      read.map Prod.fst = members.map Prod.fst ∧ ∀ e ∈ read, e ∈ entries
  | [], _ => ⟨[], rfl, rfl, List.forall_mem_nil _⟩
  | k :: rest, h => by
    obtain ⟨first, others⟩ := List.forall_mem_cons.mp h
    obtain ⟨a, mem, read_a⟩ := first
    obtain ⟨read, read_rest, names, taken⟩ := exists_mapM_members rest others
    refine ⟨(k.1, a) :: read, ?_, ?_, List.forall_mem_cons.mpr ⟨mem, taken⟩⟩
    · rw [List.mapM_cons, read_a, read_rest]
      rfl
    · rw [List.map_cons, List.map_cons, names]

theorem recovers_map {encode : α → Json} {m : NameMap α}
    (h : ∀ e ∈ m.entries, Recovers value (encode e.2) e.2) :
    Recovers (map value) (.object (m.map encode).entries) m := by
  have names_map : (m.map encode).entries.map Prod.fst = m.entries.map Prod.fst := by
    rw [NameMap.map, List.map_map]
    rfl
  have lookup_map (name : String) :
      (m.map encode).entries.lookup name = (m.entries.lookup name).map encode :=
    Row.lookup_map encode m.entries name
  constructor
  · rintro w same depth bound
    cases same with
    | @object members _ names values =>
      obtain - | depth := depth
      · exact absurd bound (Nat.not_succ_le_zero _)
      have bound := Node.membersHeight_le_iff.mp (Nat.le_of_succ_le_succ bound)
      rw [names_map] at names
      have distinct : (members.map Prod.fst).Nodup := names.nodup_iff.mpr (nodup_of_rising m.rising)
      -- Each member is read as the entry with its name.
      have each (k : String × Json) (mem : k ∈ members) :
          ∃ a, (k.1, a) ∈ m.entries ∧ value depth (Node.ofJson k.2) = some a := by
        obtain ⟨e, e_mem, name⟩ := List.mem_map.mp (names.mem_iff.mp (List.mem_map_of_mem mem))
        have entry : (k.1, e.2) ∈ m.entries := by rwa [← name]
        have found := (lookup_eq_some_iff_mem (nodup_of_rising m.rising)).mpr entry
        have reordered : k.2.Reordered (encode e.2) := by
          refine values k.1 k.2 (encode e.2) ((lookup_eq_some_iff_mem distinct).mpr mem) ?_
          rw [lookup_map, found, Option.map_some]
        exact ⟨e.2, entry, (h e e_mem).reads k.2 reordered depth (bound k mem)⟩
      obtain ⟨read, read_members, read_names, taken⟩ := exists_mapM_members members each
      rw [map_object, read_members, Option.map_some,
        NameMap.ofList_eq_of_perm (read_names ▸ names) taken]
  · refine .object fun k mem => ?_
    obtain ⟨e, mem_entries, rfl⟩ := List.mem_map.mp mem
    exact (h e mem_entries).whole

end Decoder

/-! ## Members that may be left out

A list that is left out when it is empty is an optional member with the list as its value.
-/

section

variable {encode : α → Json} {items : List α} {name : String}

/-- A list that has items. -/
def any? (items : List α) : Option (List α) := if items.isEmpty then none else some items

theorem ifAny_eq_ifSome :
    ifAny name encode items =
      ifSome name (fun items => .array (items.map encode)) (any? items) := by
  cases items <;> rfl

theorem lookup_ifAny {asked : String} :
    (ifAny name encode items).lookup asked =
      if asked = name then (any? items).map fun items => .array (items.map encode) else none := by
  rw [ifAny_eq_ifSome, lookup_ifSome]

theorem map_fst_ifAny_sublist : ((ifAny name encode items).map Prod.fst).Sublist [name] := by
  rw [ifAny_eq_ifSome]
  exact map_fst_ifSome_sublist

theorem whole_of_mem_ifAny (h : ∀ a ∈ items, (encode a).Whole) :
    ∀ m ∈ ifAny name encode items, m.2.Whole := by
  intro m mem
  unfold ifAny at mem
  split at mem
  · cases mem
  · cases List.mem_singleton.mp mem
    refine .array fun v v_mem => ?_
    obtain ⟨a, a_mem, rfl⟩ := List.mem_map.mp v_mem
    exact h a a_mem

end

/-! ## Records

`Row.Shows` is kept abstract: a record is recovered by showing each field once, without going back to
the members it was found among.
-/

namespace Row

variable {members : List (String × Json)} {name : String}

/-- The fields of a record are its members in whatever order; they stay within a bound. -/
def Shows (row : Row) (members : List (String × Json)) (depth : Nat) : Prop :=
  ∀ name, Option.Rel (fun node v => ∃ w, node = Node.ofJson w ∧ w.Reordered v ∧ node.height ≤ depth)
    (row.fields.lookup name) (members.lookup name)

/-- An object without repeated names shows the members of the object that it is a reordering of. -/
theorem shows_of_reordered {members' : List (String × Json)} {depth : Nat}
    (same : Reordered (.object members') (.object members))
    (distinct : (members'.map Prod.fst).Nodup)
    (bound : ∀ k ∈ members', (Node.ofJson k.2).height ≤ depth) :
    Shows ⟨members'.map fun k => (k.1, Node.ofJson k.2), false⟩ members depth := by
  intro name
  have field := same.lookup name
  rw [lookup_map]
  generalize members.lookup name = o at field ⊢
  cases found : members'.lookup name with
  | none =>
    rw [found] at field
    cases field
    exact .none
  | some w =>
    rw [found] at field
    cases field with
    | some reordered =>
      have mem := (lookup_eq_some_iff_mem distinct).mp found
      exact .some ⟨w, rfl, reordered, bound _ mem⟩

namespace Shows

variable {row : Row} {depth : Nat}

theorem required (h : row.Shows members depth) (found : members.lookup name = some v)
    (recovers : value.Recovers v a) : row.required name (value depth) = some a := by
  have field := h name
  rw [found] at field
  rw [Row.required]
  generalize row.fields.lookup name = node at field ⊢
  cases field with
  | some shown =>
    obtain ⟨w, rfl, reordered, bound⟩ := shown
    exact recovers.reads w reordered depth bound

/-- A field that may be left out is recovered, and as its default if it was left out. -/
theorem defaulted {o : Option Json} {default : α} (h : row.Shows members depth)
    (found : members.lookup name = o) (left_out : o = none → a = default)
    (recovers : ∀ v ∈ o, value.Recovers v a) :
    row.defaulted name default (value depth) = some a := by
  have field := h name
  rw [found] at field
  rw [Row.defaulted]
  generalize row.fields.lookup name = node at field ⊢
  cases field with
  | none => exact congrArg some (left_out rfl).symm
  | some shown =>
    obtain ⟨w, rfl, reordered, bound⟩ := shown
    exact (recovers _ rfl).reads w reordered depth bound

theorem written {default : α} (h : row.Shows members depth) (found : members.lookup name = some v)
    (recovers : value.Recovers v a) : row.defaulted name default (value depth) = some a := by
  refine h.defaulted found nofun ?_
  rintro _ ⟨⟩
  exact recovers

theorem nullable {o : Option α} {encode : α → Json} (h : row.Shows members depth)
    (found : members.lookup name = o.map encode)
    (recovers : ∀ a ∈ o, value.Recovers (encode a) a) (ne : ∀ a ∈ o, encode a ≠ .null) :
    row.defaulted name none (Decoder.nullable value depth) = some o := by
  refine h.defaulted found (Option.map_eq_none_iff.mp ·) ?_
  intro v mem
  obtain ⟨a, rfl, rfl⟩ := Option.map_eq_some_iff.mp mem
  exact (recovers a rfl).nullable (ne a rfl)

theorem nullable_string {o : Option String} (h : row.Shows members depth)
    (found : members.lookup name = o.map .string) :
    row.defaulted name none (Decoder.nullable Decoder.string depth) = some o :=
  h.nullable found (fun s _ => Decoder.recovers_string s) (fun _ _ => nofun)

theorem nullable_bool {o : Option Bool} (h : row.Shows members depth)
    (found : members.lookup name = o.map .bool) :
    row.defaulted name none (Decoder.nullable Decoder.bool depth) = some o :=
  h.nullable found (fun b _ => Decoder.recovers_bool b) (fun _ _ => nofun)

theorem nullable_nat32 {o : Option Nat} (h : row.Shows members depth)
    (found : members.lookup name = o.map Json.ofNat) (fits : ∀ n ∈ o, n ≤ Decoder.maxNat32) :
    row.defaulted name none (Decoder.nullable Decoder.nat32 depth) = some o :=
  h.nullable found (fun n mem => Decoder.recovers_nat32 (fits n mem)) (fun _ _ => nofun)

/-- A list that is left out when it is empty is recovered. -/
theorem list {items : List α} {encode : α → Json} (h : row.Shows members depth)
    (found : members.lookup name = (any? items).map fun items => .array (items.map encode))
    (recovers : ∀ a ∈ items, value.Recovers (encode a) a) :
    row.defaulted name [] (Decoder.list value depth) = some items := by
  refine h.defaulted found ?_ ?_
  · cases items with
    | nil => exact fun _ => rfl
    | cons a rest => nofun
  · cases items with
    | nil => nofun
    | cons a rest =>
      rintro v ⟨⟩
      exact Decoder.recovers_list recovers

end Shows

end Row

/-- A record is recovered if its fields are: those of the row that an object with the same members has,
in whatever order. -/
theorem Decoder.recovers_record {members : List (String × Json)} (names : List String)
    (distinct : names.Nodup) (listed : (members.map Prod.fst).Sublist names)
    (whole : ∀ m ∈ members, m.2.Whole)
    (fields : ∀ depth nodes row, Row.ofMembers? names nodes = some row → row.Shows members depth →
      value (depth + 1) (.object nodes) = some a) : value.Recovers (.object members) a := by
  refine ⟨?_, .object whole⟩
  intro w same depth bound
  cases same with
  | @object members' _ perm values =>
    obtain - | depth := depth
    · exact absurd bound (Nat.not_succ_le_zero _)
    -- The names are those of the members that were written, so each is there once and is a field.
    have distinct' : (members'.map Prod.fst).Nodup := perm.nodup_iff.mpr (listed.nodup distinct)
    have known (k : String × Json) (mem : k ∈ members') : k.1 ∈ names :=
      listed.subset (perm.mem_iff.mp (List.mem_map_of_mem mem))
    apply fields depth _ _ (Row.ofNode?_object distinct' known)
    apply Row.shows_of_reordered (.object perm values) distinct'
    exact Node.membersHeight_le_iff.mp (Nat.le_of_succ_le_succ bound)

/-! ## What is read back

From the value in any order, and from the text that was written. Two values with one text would be read
back as the same.
-/

/-- What was written of one typed value was not written of another, in whatever order. -/
theorem Decoder.Recovers.eq_of_reordered {v' : Json} {a' : α} (h : value.Recovers v a)
    (h' : value.Recovers v' a') (same : v'.Reordered v) : a' = a := by
  have read := h.reads v' same _ (Nat.le_refl _)
  have read' := h'.reads v' (.refl v') _ (Nat.le_refl _)
  exact Option.some.inj (read'.symm.trans read)

/-- What was written of a typed value is read back, however deep it nests: from the value in whatever
order, and from its text. A reader that limits how deep texts nest reads it back within its limit. -/
structure Decoder.ReadsBack (value : Decoder α) (v : Json) (a : α) : Prop where
  of_value : ∀ w, w.Reordered v → value.unbounded? (Node.ofJson w) = some a
  of_text : (Node.parse? v.pretty).bind value.unbounded? = some a
  of_text_within : (Node.ofJson v).height ≤ Node.maxDepth → value.parse? v.pretty = some a

theorem Decoder.Recovers.readsBack (h : value.Recovers v a) : value.ReadsBack v a := by
  have of_value (w : Json) (same : w.Reordered v) : value.unbounded? (Node.ofJson w) = some a :=
    h.reads w same _ (Nat.le_refl _)
  refine ⟨of_value, ?_, ?_⟩
  · rw [nodeParse?_pretty h.whole, Option.bind_some]
    exact of_value v (.refl v)
  · intro bound
    rw [parse?, nodeParse?_pretty h.whole, Option.bind_some]
    exact h.reads v (.refl v) _ bound

end ImportBoundary.Json
