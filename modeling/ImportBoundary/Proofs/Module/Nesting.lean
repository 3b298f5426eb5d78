import ImportBoundary.Proofs.Module.Holder

/-!
# Modules at every depth

`Tree.trees` lists the trees of a forest at every depth. What holds of a forest whenever it holds of
the children of each of its trees holds of every forest (`Tree.children_induction`).

A module lies along a path if one comes to it by going down through modules that hold the path
(`LiesAlong`). In a well-formed forest nested modules stay inside, so if any module holds a path, one
of the top level does (`WellFormed.exists_holds`).
-/

namespace ImportBoundary

/-! ## Trees at every depth

A tree of a forest is an element of one of its levels. The induction goes by the number of trees, which
the children of a tree have fewer of than the forest, so it reaches every depth without a mutual
statement about trees and forests.
-/

namespace Tree

universe u

variable {α : Type u} {forest : List (Tree α)} {t : Tree α}

/-- The trees of a forest, at every depth. -/
def trees (forest : List (Tree α)) : List (Tree α) := (levels forest).flatten

/-- A tree of a forest stands at the top, or below a tree at the top. -/
theorem mem_trees : t ∈ trees forest ↔ ∃ u ∈ forest, t = u ∨ t ∈ trees u.children := by
  simp only [trees, List.mem_flatten]
  constructor
  · rintro ⟨level, at_level, mem⟩
    rcases List.mem_cons.mp at_level with rfl | at_level
    · exact ⟨t, mem, Or.inl rfl⟩
    · obtain ⟨u, mem_u, below⟩ := mem_levelsInside.mp at_level
      exact ⟨u, mem_u, Or.inr ⟨level, below, mem⟩⟩
  · rintro ⟨u, mem_u, rfl | ⟨level, below, mem⟩⟩
    · exact ⟨forest, mem_levels_self forest, mem_u⟩
    · exact ⟨level, mem_levels_of_mem mem_u below, mem⟩

theorem mem_trees_of_mem (mem : t ∈ forest) : t ∈ trees forest :=
  mem_trees.mpr ⟨t, mem, Or.inl rfl⟩

theorem mem_trees_of_mem_children {u : Tree α} (mem : u ∈ forest) (h : t ∈ trees u.children) :
    t ∈ trees forest :=
  mem_trees.mpr ⟨u, mem, Or.inr h⟩

theorem forestSize_children_lt (mem : t ∈ forest) : forestSize t.children < forestSize forest := by
  obtain ⟨before, after, rfl⟩ := List.append_of_mem mem
  simp [size_eq]
  omega

/-- What holds of a forest whenever it holds of the children of each of its trees holds of every
forest. -/
@[elab_as_elim]
theorem children_induction {motive : List (Tree α) → Prop}
    (step : ∀ forest, (∀ t ∈ forest, motive t.children) → motive forest)
    (forest : List (Tree α)) : motive forest := by
  induction size : forestSize forest using Nat.strongRecOn generalizing forest with
  | ind n ih =>
      subst size
      exact step forest fun t mem => ih _ (forestSize_children_lt mem) _ rfl

end Tree

/-! ## Modules along a path

In a forest that is not well formed, a module that holds a path may be nested in one that does not. No
search comes to such a module. Where nested modules stay inside, every module that holds a path lies
along it.
-/

/-- The module stands in the forest, at whatever depth, and every module around it holds the path. -/
inductive LiesAlong (p : Path) (m : CompiledModule) : Scope → Prop
  | top {forest : Scope} : m ∈ forest → LiesAlong p m forest
  | inside {forest : Scope} {outer : CompiledModule} : outer ∈ forest → outer.value.holds p →
      LiesAlong p m outer.children → LiesAlong p m forest

variable {forest : Scope} {p : Path} {m : CompiledModule}

theorem LiesAlong.mem_trees (h : LiesAlong p m forest) : m ∈ Tree.trees forest := by
  induction h with
  | top mem => exact Tree.mem_trees_of_mem mem
  | inside mem _ _ ih => exact Tree.mem_trees_of_mem_children mem ih

/-- If a module along a path holds it, a module at the top does. -/
theorem LiesAlong.exists_holds (h : LiesAlong p m forest) (holds : m.value.holds p) :
    ∃ top ∈ forest, top.value.holds p := by
  cases h with
  | top mem => exact ⟨m, mem, holds⟩
  | inside mem outer_holds _ => exact ⟨_, mem, outer_holds⟩

/-- If a module of a well-formed forest holds a path, at whatever depth, a module at the top does. -/
theorem WellFormed.exists_holds (formed : WellFormed forest) (mem : m ∈ Tree.trees forest)
    (holds : m.value.holds p) : ∃ top ∈ forest, top.value.holds p := by
  induction forest using Tree.children_induction with
  | step forest ih =>
      obtain ⟨u, mem_u, rfl | below⟩ := Tree.mem_trees.mp mem
      · exact ⟨m, mem_u, holds⟩
      · obtain ⟨inner, mem_inner, inner_holds⟩ := ih u mem_u (formed.inside mem_u) below
        exact ⟨u, mem_u, Boundary.holds_of_isUnder (formed.isUnder mem_u mem_inner) inner_holds⟩

/-- Where modules are apart, only one of them holds a path. -/
theorem eq_of_holds {m' : CompiledModule} (apart : Scope.Apart forest) (mem : m ∈ forest)
    (holds : m.value.holds p) (mem' : m' ∈ forest) (holds' : m'.value.holds p) : m = m' := by
  obtain ⟨l, rfl, rfl⟩ := exists_located mem
  obtain ⟨l', same, rfl⟩ := exists_located mem'
  have found := locate_of_apart apart holds
  have found' := locate_of_apart (same ▸ apart) holds'
  rw [same, found] at found'
  exact congrArg Located.module (Option.some.inj found')

namespace Located

variable {l k : Located}

/-- The modules of the scope inside a module and beside it are modules of the scope around them. -/
theorem mem_trees_of_insideBeside (mem : m ∈ Tree.trees l.insideBeside) : m ∈ Tree.trees l.scope := by
  obtain ⟨u, mem_u, below⟩ := Tree.mem_trees.mp mem
  rcases mem_insideBeside.mp mem_u with inside | beside
  · exact Tree.mem_trees_of_mem_children l.mem_scope (Tree.mem_trees.mpr ⟨u, inside, below⟩)
  · exact Tree.mem_trees.mpr ⟨u, mem_scope_of_mem_beside beside, below⟩

/-- A module at another place of the scope stands beside the located one. -/
theorem mem_insideBeside_of_place_ne (scopes : k.scope = l.scope) (apart : k.place ≠ l.place) :
    k.module ∈ l.insideBeside := by
  refine mem_insideBeside.mpr (Or.inr (List.mem_append.mpr ?_))
  rcases List.append_eq_append_iff.mp scopes with ⟨between, before, rest⟩ | ⟨between, before, rest⟩
  · -- The located module stands behind `k`.
    cases between with
    | nil => exact absurd (by simp [place, before]) apart
    | cons first more =>
        left
        rw [before, (List.cons.inj rest).1]
        simp
  · cases between with
    | nil => exact absurd (by simp [place, before]) apart
    | cons first more =>
        right
        rw [(List.cons.inj rest).2]
        simp

end Located

end ImportBoundary
