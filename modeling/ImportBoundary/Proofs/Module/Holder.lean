import ImportBoundary.Proofs.Module.Layout

/-!
# The holder of a path

`locate` finds the first module of a scope that holds a path, and finds nothing exactly if no module
holds it. Where modules are apart there is at most one that holds a path, so `locate` finds that one
wherever it stands.
-/

namespace ImportBoundary

theorem locate_cons_of_holds {p : Path} {m : CompiledModule} {rest : Scope}
    (h : m.value.holds p) : locate p (m :: rest) = some ⟨[], m, rest⟩ := by
  rw [locate, if_pos h]

theorem locate_cons_of_not_holds {p : Path} {m : CompiledModule} {rest : Scope}
    (h : ¬ m.value.holds p) : locate p (m :: rest) = (locate p rest).map (Located.behind m) := by
  rw [locate, if_neg h]

/-- Nothing is found exactly if no module of the scope holds the path. -/
theorem locate_eq_none_iff {p : Path} {scope : Scope} :
    locate p scope = none ↔ ∀ m ∈ scope, ¬ m.value.holds p := by
  induction scope with
  | nil => simp [locate]
  | cons m rest ih =>
      by_cases h : m.value.holds p
      · rw [locate_cons_of_holds h]
        simp [h]
      · rw [locate_cons_of_not_holds h, Option.map_eq_none_iff, ih]
        simp [h]

/-- The modules before a located one do not hold the path. -/
theorem not_holds_before_of_locate {p : Path} {scope : Scope} {l : Located}
    (h : locate p scope = some l) : ∀ m ∈ l.before, ¬ m.value.holds p := by
  induction scope generalizing l with
  | nil => simp [locate] at h
  | cons m rest ih =>
      by_cases hm : m.value.holds p
      · rw [locate_cons_of_holds hm] at h
        cases h
        simp
      · rw [locate_cons_of_not_holds hm] at h
        obtain ⟨inner, found, rfl⟩ := Option.map_eq_some_iff.mp h
        intro m' mem
        rcases List.mem_cons.mp mem with rfl | mem
        · exact hm
        · exact ih found m' mem

/-- A module that holds a path is found if no module before it does. -/
theorem locate_scope {p : Path} {l : Located} (h : l.boundary.holds p)
    (before : ∀ m ∈ l.before, ¬ m.value.holds p) : locate p l.scope = some l := by
  obtain ⟨before_modules, m, after⟩ := l
  induction before_modules with
  | nil => exact locate_cons_of_holds h
  | cons first more ih =>
      show locate p (first :: (more ++ m :: after)) = _
      rw [locate_cons_of_not_holds (before first List.mem_cons_self)]
      have found := ih h fun m' mem => before m' (List.mem_cons_of_mem _ mem)
      exact Option.map_eq_some_iff.mpr ⟨_, found, rfl⟩

/-- A located module is one of its scope. -/
theorem mem_of_locate {p : Path} {scope : Scope} {l : Located} (h : locate p scope = some l) :
    l.module ∈ scope :=
  scope_of_locate h ▸ l.mem_scope

/-- The located module is the first one that holds the path. -/
theorem map_module_locate (p : Path) (scope : Scope) :
    (locate p scope).map Located.module = scope.find? fun m => m.value.holds p := by
  induction scope with
  | nil => rfl
  | cons m rest ih =>
      rw [List.find?_cons]
      by_cases h : m.value.holds p
      · rw [locate_cons_of_holds h, h]
        rfl
      · rw [locate_cons_of_not_holds h, Bool.eq_false_iff.mpr h, ← ih, Option.map_map]
        rfl

/-- Something is found if a module of the scope holds the path. -/
theorem exists_locate_of_holds {p : Path} {scope : Scope} {m : CompiledModule} (mem : m ∈ scope)
    (h : m.value.holds p) : ∃ l, locate p scope = some l := by
  cases found : locate p scope with
  | some l => exact ⟨l, rfl⟩
  | none => exact absurd h (locate_eq_none_iff.mp found m mem)

/-- The place of a module in a scope determines the module. -/
theorem Located.eq_of_place {a b : Located} (scope : a.scope = b.scope) (place : a.place = b.place) :
    a = b := by
  obtain ⟨before, rest⟩ := List.append_inj scope place
  cases a
  cases b
  simp_all

/-! ## Scopes without overlap

Where modules are apart, a search may stop at the first module that holds a path without leaving out
another one.
-/

/-- Where modules are apart, a module that holds a path is found wherever it stands. -/
theorem locate_of_apart {p : Path} {l : Located} (apart : Scope.Apart l.scope)
    (h : l.boundary.holds p) : locate p l.scope = some l := by
  refine locate_scope h fun m mem => ?_
  have across : l.boundary.Apart m.value :=
    (Located.apart_beside apart).2 m (List.mem_append_left _ mem)
  exact across.not_holds h

/-- Every module of a scope stands at a place of it. -/
theorem exists_located {scope : Scope} {m : CompiledModule} (mem : m ∈ scope) :
    ∃ l : Located, l.scope = scope ∧ l.module = m := by
  obtain ⟨before, after, rfl⟩ := List.append_of_mem mem
  exact ⟨⟨before, m, after⟩, rfl, rfl⟩

end ImportBoundary
