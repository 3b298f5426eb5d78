import ImportBoundary.Module.Locate
import ImportBoundary.Proofs.Path.Containment

/-!
# The layout of a forest of modules

A forest is well formed when siblings do not overlap and nested modules stay inside the module
around them, at every level. Modules that are apart hold no common path (`Boundary.Apart.not_holds`),
and what a nested module holds, the module around it holds as well (`Boundary.holds_of_isUnder`).

The judgement of an import descends into a module and, on the source side, takes the siblings of
that module along. Both scopes are well formed again (`WellFormed.inside`,
`WellFormed.insideBeside`).
-/

namespace ImportBoundary

/-! ## The levels of a forest

A level is a list of siblings, at whatever depth. Being well formed is a condition on every level, and
since there are finitely many levels it can be decided.
-/

namespace Tree

universe u

variable {α : Type u}

mutual

/-- The lists of siblings inside a tree. -/
def levelsBelow : Tree α → List (List (Tree α))
  | .node _ children => children :: levelsInside children

/-- The lists of siblings inside the trees of a forest. -/
def levelsInside : List (Tree α) → List (List (Tree α))
  | [] => []
  | t :: rest => levelsBelow t ++ levelsInside rest

end

/-- The lists of siblings of a forest: the forest itself, and the children of every tree in it. -/
def levels (forest : List (Tree α)) : List (List (Tree α)) := forest :: levelsInside forest

theorem levelsBelow_eq (t : Tree α) : t.levelsBelow = levels t.children := by
  cases t
  rfl

theorem mem_levels_self (forest : List (Tree α)) : forest ∈ levels forest :=
  List.mem_cons_self

theorem mem_levelsInside {forest level : List (Tree α)} :
    level ∈ levelsInside forest ↔ ∃ t ∈ forest, level ∈ levels t.children := by
  induction forest with
  | nil => simp [levelsInside]
  | cons t rest ih => simp [levelsInside, levelsBelow_eq, ih]

/-- A level inside a tree of the forest is a level of the forest. -/
theorem mem_levels_of_mem {forest level : List (Tree α)} {t : Tree α} (mem : t ∈ forest)
    (h : level ∈ levels t.children) : level ∈ levels forest :=
  List.mem_cons_of_mem _ (mem_levelsInside.mpr ⟨t, mem, h⟩)

end Tree

/-! ## Modules apart and modules nested

Both conditions compare directories as texts, like the test for holding a file. Of two directories that
hold a common path, one lies under the other: the two texts begin like the path, so the shorter one
begins the longer one.
-/

namespace Boundary

/-- The directory of one module lies under that of another one. -/
def IsUnder (a b : Boundary) : Prop := Path.isUnder a.path.text b.path.text

instance (a b : Boundary) : Decidable (a.IsUnder b) := inferInstanceAs (Decidable (_ = true))

/-- Neither of two modules lies under the other one. -/
def Apart (a b : Boundary) : Prop := ¬ a.IsUnder b ∧ ¬ b.IsUnder a

instance (a b : Boundary) : Decidable (a.Apart b) := inferInstanceAs (Decidable (_ ∧ _))

theorem Apart.symm {a b : Boundary} (h : a.Apart b) : b.Apart a := ⟨h.2, h.1⟩

/-- What a nested module holds, the module around it holds. -/
theorem holds_of_isUnder {a b : Boundary} {p : Path} (under : a.IsUnder b) (h : a.holds p) :
    b.holds p :=
  Path.isUnder_trans h under

/-- Modules that are apart hold no common path. -/
theorem Apart.not_holds {a b : Boundary} {p : Path} (apart : a.Apart b) (h : a.holds p) :
    ¬ b.holds p := by
  intro h'
  rcases Path.isUnder_or_isUnder h h' with under | under
  · exact apart.1 under
  · exact apart.2 under

/-- A module nested in a module that is apart from a third one is apart from it as well. -/
theorem Apart.of_isUnder {a inner b : Boundary} (apart : a.Apart b) (under : inner.IsUnder a) :
    inner.Apart b := by
  constructor
  · -- `inner` is a path that both `a` and `b` would hold.
    intro h
    exact apart.not_holds (p := inner.path) under h
  · intro h
    exact apart.2 (Path.isUnder_trans h under)

end Boundary

/-- No two modules of a scope overlap. -/
def Scope.Apart (scope : Scope) : Prop := scope.Pairwise fun a b => a.value.Apart b.value

instance (scope : Scope) : Decidable scope.Apart := inferInstanceAs (Decidable (List.Pairwise _ _))

/-- The modules nested in those of a scope stay inside them. -/
def Scope.Nested (scope : Scope) : Prop :=
  ∀ m ∈ scope, ∀ inner ∈ m.children, inner.value.IsUnder m.value

instance (scope : Scope) : Decidable scope.Nested :=
  inferInstanceAs (Decidable (∀ m ∈ scope, ∀ inner ∈ m.children, _))

/-- At every level of a forest siblings do not overlap and nested modules stay inside. -/
structure WellFormed (forest : Scope) : Prop where
  apart : ∀ level ∈ Tree.levels forest, Scope.Apart level
  nested : ∀ level ∈ Tree.levels forest, Scope.Nested level

theorem wellFormed_iff {forest : Scope} :
    WellFormed forest ↔ ∀ level ∈ Tree.levels forest, Scope.Apart level ∧ Scope.Nested level :=
  ⟨fun h level at_level => ⟨h.apart level at_level, h.nested level at_level⟩,
    fun h => ⟨fun level at_level => (h level at_level).1, fun level at_level => (h level at_level).2⟩⟩

instance (forest : Scope) : Decidable (WellFormed forest) :=
  decidable_of_iff _ wellFormed_iff.symm

namespace WellFormed

variable {scope : Scope}

theorem apart_top (h : WellFormed scope) : Scope.Apart scope :=
  h.apart scope (Tree.mem_levels_self scope)

theorem nested_top (h : WellFormed scope) : Scope.Nested scope :=
  h.nested scope (Tree.mem_levels_self scope)

/-- A module nested in a module of the scope lies under it. -/
theorem isUnder (h : WellFormed scope) {m inner : CompiledModule} (mem : m ∈ scope)
    (mem_inner : inner ∈ m.children) : inner.value.IsUnder m.value :=
  h.nested_top m mem inner mem_inner

/-- The scope inside a module of a well-formed forest is well formed. -/
theorem inside (h : WellFormed scope) {m : CompiledModule} (mem : m ∈ scope) :
    WellFormed m.children where
  apart level at_level := h.apart level (Tree.mem_levels_of_mem mem at_level)
  nested level at_level := h.nested level (Tree.mem_levels_of_mem mem at_level)

/-- A scope is well formed if its modules are apart, nested modules stay inside them, and the scope
inside each of them is well formed. -/
theorem of_inside (apart : Scope.Apart scope) (nested : Scope.Nested scope)
    (inside : ∀ m ∈ scope, WellFormed m.children) : WellFormed scope where
  apart level at_level := by
    rcases List.mem_cons.mp at_level with rfl | at_level
    · exact apart
    · obtain ⟨m, mem, at_level⟩ := Tree.mem_levelsInside.mp at_level
      exact (inside m mem).apart level at_level
  nested level at_level := by
    rcases List.mem_cons.mp at_level with rfl | at_level
    · exact nested
    · obtain ⟨m, mem, at_level⟩ := Tree.mem_levelsInside.mp at_level
      exact (inside m mem).nested level at_level

end WellFormed

/-! ## The mixed scope of the source side

What is nested in a module takes its place among the siblings of the module. It stays apart from them,
because it lies under the module, which was apart from them.
-/

namespace Located

theorem mem_scope (l : Located) : l.module ∈ l.scope :=
  List.mem_append_right _ List.mem_cons_self

/-- A module beside the located one is a module of its scope. -/
theorem mem_scope_of_mem_beside {l : Located} {m : CompiledModule}
    (mem : m ∈ l.before ++ l.after) : m ∈ l.scope := by
  rcases List.mem_append.mp mem with mem | mem
  · exact List.mem_append_left _ mem
  · exact List.mem_append_right _ (List.mem_cons_of_mem _ mem)

theorem mem_insideBeside {l : Located} {m : CompiledModule} :
    m ∈ l.insideBeside ↔ m ∈ l.inside ∨ m ∈ l.before ++ l.after := by
  simp [insideBeside, inside]

/-- The modules beside the located one are apart from it and from each other. -/
theorem apart_beside {l : Located} (h : Scope.Apart l.scope) :
    Scope.Apart (l.before ++ l.after) ∧
      ∀ m ∈ l.before ++ l.after, l.boundary.Apart m.value := by
  obtain ⟨before, rest, across⟩ := List.pairwise_append.mp h
  obtain ⟨behind, after⟩ := List.pairwise_cons.mp rest
  refine ⟨List.pairwise_append.mpr ⟨before, after, fun a ha b hb => ?_⟩, fun m mem => ?_⟩
  · exact across a ha b (List.mem_cons_of_mem _ hb)
  · rcases List.mem_append.mp mem with mem | mem
    · exact (across m mem l.module List.mem_cons_self).symm
    · exact behind m mem

/-- The scope inside a module and beside it is well formed if the scope of the module is. -/
theorem wellFormed_insideBeside {l : Located} (h : WellFormed l.scope) :
    WellFormed l.insideBeside := by
  obtain ⟨beside, from_module⟩ := apart_beside h.apart_top
  have inside : WellFormed l.inside := h.inside l.mem_scope
  refine .of_inside ?_ ?_ ?_
  · rw [insideBeside, List.append_assoc]
    refine List.pairwise_append.mpr ⟨inside.apart_top, beside, fun inner mem_inner m mem => ?_⟩
    exact (from_module m mem).of_isUnder (h.isUnder l.mem_scope mem_inner)
  · intro m mem
    rcases mem_insideBeside.mp mem with mem | mem
    · exact inside.nested_top m mem
    · exact h.nested_top m (mem_scope_of_mem_beside mem)
  · intro m mem
    rcases mem_insideBeside.mp mem with mem | mem
    · exact inside.inside mem
    · exact h.inside (mem_scope_of_mem_beside mem)

end Located

end ImportBoundary
