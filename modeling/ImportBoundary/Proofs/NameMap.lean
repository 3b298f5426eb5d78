import Mathlib.Algebra.Ring.Nat
import Mathlib.Data.List.Nodup
import ImportBoundary.NameMap

/-!
# Maps made of lists

`NameMap.ofList` finds for a name its last entry in the list (`get?_ofList`), keeps nothing else
(`mem_of_mem_ofList`), and leaves a list alone whose names rise (`entries_ofList`). Where no name
occurs twice the last entry of a name is the only one (`lookup_reverse`). In a map of numbers, writing
the value of a name takes the old one out of the sum of all values (`total_insert`).
-/

namespace ImportBoundary

universe u

variable {α : Type u} {entries : List (String × α)} {name : String} {value : α}

theorem lookup_cons_eq (n : String) (v : α) (rest : List (String × α)) :
    ((n, v) :: rest).lookup name = if name = n then some v else rest.lookup name := by
  rw [List.lookup_cons]
  by_cases same : name = n
  · rw [beq_iff_eq.mpr same, if_pos same]
  · rw [beq_eq_false_iff_ne.mpr same, if_neg same]

/-- The value of a name is that of its only entry. -/
theorem lookup_eq_some_iff_mem (distinct : (entries.map Prod.fst).Nodup) :
    entries.lookup name = some value ↔ (name, value) ∈ entries := by
  induction entries with
  | nil => simp
  | cons e rest ih =>
    obtain ⟨n, v⟩ := e
    rw [List.map_cons, List.nodup_cons] at distinct
    rw [lookup_cons_eq, List.mem_cons]
    by_cases same : name = n
    · subst same
      have only : (name, value) ∉ rest := fun mem =>
        distinct.1 (List.mem_map.mpr ⟨(name, value), mem, rfl⟩)
      simp [only, eq_comm]
    · simp [same, ih distinct.2]

theorem lookup_isSome_iff_mem : (entries.lookup name).isSome ↔ name ∈ entries.map Prod.fst := by
  induction entries with
  | nil => simp
  | cons e rest ih =>
    obtain ⟨n, v⟩ := e
    rw [lookup_cons_eq, List.map_cons, List.mem_cons, ← ih]
    by_cases same : name = n <;> simp [same]

/-- Where no name occurs twice the order of the entries does not matter. -/
theorem lookup_reverse (distinct : (entries.map Prod.fst).Nodup) :
    entries.reverse.lookup name = entries.lookup name := by
  have distinct' : (entries.reverse.map Prod.fst).Nodup := by
    rw [List.map_reverse]
    exact List.nodup_reverse.mpr distinct
  refine Option.ext fun value => ?_
  rw [lookup_eq_some_iff_mem distinct', lookup_eq_some_iff_mem distinct, List.mem_reverse]

/-- Rising names are distinct. -/
theorem nodup_of_rising (rising : entries.Pairwise fun a b => a.1 < b.1) :
    (entries.map Prod.fst).Nodup := by
  rw [List.Nodup, List.pairwise_map]
  refine rising.imp fun lt same => ?_
  rw [same] at lt
  exact String.lt_irrefl _ lt

theorem lookup_of_forall_lt (above : ∀ e ∈ entries, name < e.1) : entries.lookup name = none := by
  rw [← Option.not_isSome_iff_eq_none, lookup_isSome_iff_mem, List.mem_map]
  rintro ⟨e, mem, rfl⟩
  exact String.lt_irrefl _ (above e mem)

namespace NameMap

theorem get?_insert (m : NameMap α) (n : String) (v : α) :
    (m.insert n v).get? name = if name = n then some v else m.get? name := by
  obtain ⟨entries, rising⟩ := m
  show (place n v entries).lookup name = if name = n then some v else entries.lookup name
  clear rising
  induction entries with
  | nil => rw [place, lookup_cons_eq]
  | cons e rest ih =>
    obtain ⟨n', v'⟩ := e
    unfold place
    split
    · next same =>
      rw [lookup_cons_eq, lookup_cons_eq, same]
      split <;> rfl
    · next other =>
      split
      · rw [lookup_cons_eq]
      · rw [lookup_cons_eq, ih, lookup_cons_eq]
        by_cases same : name = n'
        · rw [if_pos same, if_neg (same ▸ Ne.symm other), if_pos same]
        · rw [if_neg same, if_neg same]

/-- The map of a list has for each name the last entry of the list. -/
theorem get?_ofList : (ofList entries).get? name = entries.reverse.lookup name := by
  -- The fold starts from any map: the entries of the list go before those of the map.
  have fold (m : NameMap α) : (entries.foldl (fun m e => m.insert e.1 e.2) m).get? name =
      (entries.reverse.lookup name).or (m.get? name) := by
    induction entries generalizing m with
    | nil => rfl
    | cons e rest ih =>
      rw [List.foldl_cons, ih, get?_insert, List.reverse_cons, List.lookup_append, Option.or_assoc]
      congr 1
      rw [lookup_cons_eq]
      split <;> rfl
  exact (fold empty).trans Option.or_none

/-- The map of a list has no other entries. -/
theorem mem_of_mem_ofList {e : String × α} (h : e ∈ (ofList entries).entries) : e ∈ entries := by
  obtain ⟨name, value⟩ := e
  have found := (lookup_eq_some_iff_mem (nodup_of_rising (ofList entries).rising)).mpr h
  rw [← get?, get?_ofList] at found
  obtain ⟨before, after, split, -⟩ := List.lookup_eq_some_iff.mp found
  refine List.mem_reverse.mp ?_
  rw [split]
  exact List.mem_append_right _ List.mem_cons_self

theorem place_of_forall_lt (h : ∀ e ∈ entries, e.1 < name) :
    place name value entries = entries ++ [(name, value)] := by
  induction entries with
  | nil => rfl
  | cons e rest ih =>
    obtain ⟨n, v⟩ := e
    obtain ⟨lt, others⟩ := List.forall_mem_cons.mp h
    have other : name ≠ n := fun same => String.lt_irrefl n (same ▸ lt)
    rw [place, if_neg other, if_neg (String.lt_asymm lt), ih others, List.cons_append]

/-- A list whose names rise stays as it is. -/
theorem entries_ofList (rising : entries.Pairwise fun a b => a.1 < b.1) :
    (ofList entries).entries = entries := by
  -- The entries that were placed and those that are left are the list at every step, so each entry is
  -- placed behind all others.
  have fold (kept : NameMap α) (rest : List (String × α))
      (rising : (kept.entries ++ rest).Pairwise fun a b => a.1 < b.1) :
      (rest.foldl (fun m e => m.insert e.1 e.2) kept).entries = kept.entries ++ rest := by
    induction rest generalizing kept with
    | nil => rw [List.foldl_nil, List.append_nil]
    | cons e rest ih =>
      have below : ∀ k ∈ kept.entries, k.1 < e.1 := fun k mem =>
        (List.pairwise_append.mp rising).2.2 k mem e List.mem_cons_self
      have placed : (kept.insert e.1 e.2).entries = kept.entries ++ [e] := place_of_forall_lt below
      rw [List.foldl_cons, ih, placed, List.append_assoc, List.singleton_append]
      rwa [placed, List.append_assoc, List.singleton_append]
  exact fold empty entries rising

/-- Maps with the same entries are equal. -/
theorem ext_mem {m m' : NameMap α} (h : ∀ e, e ∈ m.entries ↔ e ∈ m'.entries) : m = m' := by
  obtain ⟨entries, rising⟩ := m
  obtain ⟨entries', rising'⟩ := m'
  have perm : entries.Perm entries' :=
    (List.perm_ext_iff_of_nodup (nodup_of_rising rising).of_map
      (nodup_of_rising rising').of_map).mpr h
  have same : entries = entries' :=
    perm.eq_of_pairwise (fun _ _ _ _ lt gt => absurd gt (String.lt_asymm lt)) rising rising'
  cases same
  rfl

/-- The map of a list without repeated names has all entries of the list. -/
theorem mem_ofList_iff (distinct : (entries.map Prod.fst).Nodup) {e : String × α} :
    e ∈ (ofList entries).entries ↔ e ∈ entries := by
  rw [← lookup_eq_some_iff_mem (nodup_of_rising (ofList entries).rising), ← get?, get?_ofList,
    lookup_reverse distinct, lookup_eq_some_iff_mem distinct]

/-- Entries of a map under all names of the map, in whatever order, make the map. -/
theorem ofList_eq_of_perm {m : NameMap α}
    (names : (entries.map Prod.fst).Perm (m.entries.map Prod.fst))
    (taken : ∀ e ∈ entries, e ∈ m.entries) : ofList entries = m := by
  have distinct := nodup_of_rising m.rising
  refine ext_mem fun e => ?_
  rw [mem_ofList_iff (names.nodup_iff.mpr distinct)]
  refine ⟨taken e, fun mem => ?_⟩
  -- The name of an entry of the map is the name of an entry in the list, and this is the same entry.
  obtain ⟨e', mem', same⟩ := List.mem_map.mp (names.mem_iff.mpr (List.mem_map_of_mem mem))
  have value := (lookup_eq_some_iff_mem distinct).mpr mem
  have value' := (lookup_eq_some_iff_mem distinct).mpr (taken e' mem')
  rw [same, value] at value'
  rwa [Prod.ext same.symm (Option.some.inj value')]

/-! ## Sums

What a map of numbers adds up to, for the counts of an evaluation.
-/

/-- The sum of the values of a map. -/
def total (m : NameMap Nat) : Nat := (m.entries.map Prod.snd).sum

/-- Placing a value adds it to the sum, and takes the value away that stood there before. -/
theorem sum_place {entries : List (String × Nat)} (name : String) (value : Nat)
    (rising : entries.Pairwise fun a b => a.1 < b.1) :
    ((place name value entries).map Prod.snd).sum + (entries.lookup name).getD 0 =
      (entries.map Prod.snd).sum + value := by
  induction entries with
  | nil => simp [place]
  | cons e rest ih =>
      obtain ⟨n, v⟩ := e
      obtain ⟨above, rising⟩ := List.pairwise_cons.mp rising
      have placed := ih rising
      rw [lookup_cons_eq]
      -- The entry has the name, or stands behind it, and then there is none with the name, or stands
      -- before it.
      unfold place
      by_cases same : name = n
      · rw [if_pos same, if_pos same]
        simp only [List.map_cons, List.sum_cons, Option.getD_some]
        omega
      · rw [if_neg same, if_neg same]
        by_cases before : name < n
        · have absent : rest.lookup name = none :=
            lookup_of_forall_lt fun e mem => String.lt_trans before (above e mem)
          rw [if_pos before, absent]
          simp only [List.map_cons, List.sum_cons, Option.getD_none]
          omega
        · rw [if_neg before]
          simp only [List.map_cons, List.sum_cons]
          omega

theorem total_insert (m : NameMap Nat) (name : String) (value : Nat) :
    (m.insert name value).total + (m.get? name).getD 0 = m.total + value :=
  sum_place name value m.rising

end NameMap

end ImportBoundary
