import ImportBoundary.Json.Basic
import ImportBoundary.Proofs.NameMap

/-!
# Values that are kept

A value that is read and kept has the members of its objects in the order of their names: reading the
node of a value gives the value's canonical form (`toJson?_ofJson`), and what was read once is
canonical (`canonical_of_toJson?`). Both ways the number of arrays and objects inside each other stays
within the bound of the reader.

Values, items and members are mutually inductive, and the facts about them come in threes with one
recursion for the three. An object is arranged after its members have been put in canonical form, so a
second time nothing is left to be done (`canonical_canonical`).
-/

namespace ImportBoundary.Json

mutual

/-- A value with the members of its objects in the order of their names. -/
def canonical : Json → Json
  | .array items => .array (canonicalItems items)
  | .object members => sorted (canonicalMembers members)
  | v => v

def canonicalItems : List Json → List Json
  | [] => []
  | item :: rest => canonical item :: canonicalItems rest

def canonicalMembers : List (String × Json) → List (String × Json)
  | [] => []
  | (name, value) :: rest => (name, canonical value) :: canonicalMembers rest

end

theorem canonicalMembers_eq_map (members : List (String × Json)) :
    canonicalMembers members = members.map fun m => (m.1, canonical m.2) := by
  induction members with
  | nil => rfl
  | cons m rest ih => rw [canonicalMembers, ih, List.map_cons]

namespace Node

/-- The items of an array stay within a bound if each of them does. -/
theorem itemsHeight_le_iff {items : List Json} {n : Nat} :
    itemsHeight (ofItems items) ≤ n ↔ ∀ item ∈ items, (ofJson item).height ≤ n := by
  induction items with
  | nil => simp [ofItems, itemsHeight]
  | cons item rest ih => rw [ofItems, itemsHeight, Nat.max_le, ih, List.forall_mem_cons]

/-- The members of an object stay within a bound if each of them does. -/
theorem membersHeight_le_iff {members : List (String × Json)} {n : Nat} :
    membersHeight (ofMembers members) ≤ n ↔ ∀ m ∈ members, (ofJson m.2).height ≤ n := by
  induction members with
  | nil => simp [ofMembers, membersHeight]
  | cons m rest ih => rw [ofMembers, membersHeight, Nat.max_le, ih, List.forall_mem_cons]

mutual

/-- The node of a value is read as the canonical form of the value. -/
theorem toJson?_ofJson : (v : Json) → {depth : Nat} → (ofJson v).height ≤ depth →
    toJson? depth (ofJson v) = some v.canonical
  | .null, _, _ => rfl
  | .bool _, _, _ => rfl
  | .number _, _, _ => rfl
  | .string _, _, _ => rfl
  | .array items, 0, h => absurd h (Nat.not_succ_le_zero _)
  | .array items, depth + 1, h => by
    rw [ofJson, toJson?, toItems?_ofItems items (Nat.le_of_succ_le_succ h)]
    rfl
  | .object members, 0, h => absurd h (Nat.not_succ_le_zero _)
  | .object members, depth + 1, h => by
    rw [ofJson, toJson?, toMembers?_ofMembers members (Nat.le_of_succ_le_succ h)]
    rfl

theorem toItems?_ofItems : (items : List Json) → {depth : Nat} →
    itemsHeight (ofItems items) ≤ depth →
    toItems? depth (ofItems items) = some (canonicalItems items)
  | [], _, _ => rfl
  | item :: rest, depth, h => by
    obtain ⟨first, others⟩ := Nat.max_le.mp h
    rw [ofItems, toItems?, toJson?_ofJson item first, toItems?_ofItems rest others]
    rfl

theorem toMembers?_ofMembers : (members : List (String × Json)) → {depth : Nat} →
    membersHeight (ofMembers members) ≤ depth →
    toMembers? depth (ofMembers members) = some (canonicalMembers members)
  | [], _, _ => rfl
  | (name, value) :: rest, depth, h => by
    obtain ⟨first, others⟩ := Nat.max_le.mp h
    rw [ofMembers, toMembers?, toJson?_ofJson value first, toMembers?_ofMembers rest others]
    rfl

end

end Node

theorem canonicalMembers_eq_self_iff {members : List (String × Json)} :
    canonicalMembers members = members ↔ ∀ m ∈ members, m.2.canonical = m.2 := by
  induction members with
  | nil => simp [canonicalMembers]
  | cons m rest ih =>
    obtain ⟨name, value⟩ := m
    rw [canonicalMembers, List.cons_eq_cons, ih, List.forall_mem_cons, Prod.mk.injEq]
    simp

theorem rising_arrange (members : List (String × Json)) :
    (arrange members).Pairwise fun a b => a.1 < b.1 :=
  (NameMap.ofList members).rising

/-- Arranging keeps the order of members that are arranged already. -/
theorem arrange_arrange (members : List (String × Json)) :
    arrange (arrange members) = arrange members :=
  NameMap.entries_ofList (rising_arrange members)

theorem mem_of_mem_arrange {members : List (String × Json)} {m : String × Json}
    (h : m ∈ arrange members) : m ∈ members :=
  NameMap.mem_of_mem_ofList h

/-- An object is in canonical form if it is made of members in canonical form. -/
theorem canonical_sorted {members : List (String × Json)} (h : canonicalMembers members = members) :
    (sorted members).canonical = sorted members := by
  have kept : canonicalMembers (arrange members) = arrange members :=
    canonicalMembers_eq_self_iff.mpr fun m mem =>
      canonicalMembers_eq_self_iff.mp h m (mem_of_mem_arrange mem)
  rw [sorted, canonical, kept, sorted, arrange_arrange]

namespace Node

/-- Arranging keeps an object within a bound. -/
theorem membersHeight_arrange_le {members : List (String × Json)} {n : Nat}
    (h : membersHeight (ofMembers members) ≤ n) : membersHeight (ofMembers (arrange members)) ≤ n :=
  membersHeight_le_iff.mpr fun m mem => membersHeight_le_iff.mp h m (mem_of_mem_arrange mem)

mutual

/-- What was read is in canonical form, and within the bound of the reader. -/
theorem canonical_of_toJson? : (node : Node) → {depth : Nat} → {v : Json} →
    toJson? depth node = some v → v.canonical = v ∧ (ofJson v).height ≤ depth
  | .null, _, _, h => by
    cases h
    exact ⟨rfl, Nat.zero_le _⟩
  | .bool _, _, _, h => by
    cases h
    exact ⟨rfl, Nat.zero_le _⟩
  | .number _, _, _, h => by
    obtain ⟨n, -, rfl⟩ := Option.map_eq_some_iff.mp h
    exact ⟨rfl, Nat.zero_le _⟩
  | .string _, _, _, h => by
    obtain ⟨s, -, rfl⟩ := Option.map_eq_some_iff.mp h
    exact ⟨rfl, Nat.zero_le _⟩
  | .array _, 0, _, h => nomatch h
  | .array nodes, depth + 1, _, h => by
    obtain ⟨items, read, rfl⟩ := Option.map_eq_some_iff.mp h
    obtain ⟨kept, bound⟩ := canonical_of_toItems? nodes read
    exact ⟨congrArg Json.array kept, Nat.succ_le_succ bound⟩
  | .object _, 0, _, h => nomatch h
  | .object nodes, depth + 1, _, h => by
    obtain ⟨members, read, rfl⟩ := Option.map_eq_some_iff.mp h
    obtain ⟨kept, bound⟩ := canonical_of_toMembers? nodes read
    exact ⟨canonical_sorted kept, Nat.succ_le_succ (membersHeight_arrange_le bound)⟩

theorem canonical_of_toItems? : (nodes : List Node) → {depth : Nat} → {items : List Json} →
    toItems? depth nodes = some items →
    canonicalItems items = items ∧ itemsHeight (ofItems items) ≤ depth
  | [], _, _, h => by
    cases h
    exact ⟨rfl, Nat.zero_le _⟩
  | node :: rest, _, _, h => by
    obtain ⟨value, first, h⟩ := Option.bind_eq_some_iff.mp h
    obtain ⟨values, others, h⟩ := Option.bind_eq_some_iff.mp h
    cases h
    obtain ⟨kept, bound⟩ := canonical_of_toJson? node first
    obtain ⟨kept_others, bound_others⟩ := canonical_of_toItems? rest others
    refine ⟨?_, Nat.max_le.mpr ⟨bound, bound_others⟩⟩
    rw [canonicalItems, kept, kept_others]

theorem canonical_of_toMembers? : (nodes : List (Option String × Node)) → {depth : Nat} →
    {members : List (String × Json)} → toMembers? depth nodes = some members →
    canonicalMembers members = members ∧ membersHeight (ofMembers members) ≤ depth
  | [], _, _, h => by
    cases h
    exact ⟨rfl, Nat.zero_le _⟩
  | (_, node) :: rest, _, _, h => by
    obtain ⟨name, -, h⟩ := Option.bind_eq_some_iff.mp h
    obtain ⟨value, first, h⟩ := Option.bind_eq_some_iff.mp h
    obtain ⟨values, others, h⟩ := Option.bind_eq_some_iff.mp h
    cases h
    obtain ⟨kept, bound⟩ := canonical_of_toJson? node first
    obtain ⟨kept_others, bound_others⟩ := canonical_of_toMembers? rest others
    refine ⟨?_, Nat.max_le.mpr ⟨bound, bound_others⟩⟩
    rw [canonicalMembers, kept, kept_others]

end

end Node

/-- A canonical form is canonical, and no higher than the value. -/
theorem canonical_canonical (v : Json) :
    v.canonical.canonical = v.canonical ∧
      (Node.ofJson v.canonical).height ≤ (Node.ofJson v).height :=
  Node.canonical_of_toJson? _ (Node.toJson?_ofJson v (Nat.le_refl _))

end ImportBoundary.Json
