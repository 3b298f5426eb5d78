import Mathlib.Data.List.Forall2
import ImportBoundary.Proofs.Module.Alike

/-!
# The entries of a module

What a module grants stands in lists: the patterns of its interface, its dependencies, its externals
and its exceptions. A module is relaxed when these lists grow (`Boundary.RelaxedTo`). A compiled
module holds the compiled entries of its declaration and no others (`mem_of_mapM_eq_ok`), so
declarations with the same entries, in whatever order and however often, compile to modules that
grant the same (`ModuleDeclaration.SameEntries.exists_compile`).
-/

namespace ImportBoundary

/-- What a module may import from outside of all modules has grown. -/
inductive Externals.RelaxedTo : Externals → Externals → Prop
  | all {e : Externals} : RelaxedTo e .all
  | only {some more : List Pattern} : some ⊆ more → RelaxedTo (.only some) (.only more)

/-- A module grants what it granted before, and maybe more. Its note may change. -/
structure Boundary.RelaxedTo (a b : Boundary) : Prop where
  path : a.path = b.path
  interface : a.interface ⊆ b.interface
  dependencies : a.dependencies ⊆ b.dependencies
  externals : a.externals.RelaxedTo b.externals
  exceptions : a.exceptions ⊆ b.exceptions

/-! ## Compiling the entries of a list

Lists of entries are compiled by `mapM`, which stops at the first entry that fails. If none does,
nothing is left of the order in which they were tried, and as sets the compiled entries depend on the
entries only.
-/

/-- Two lists have the same members, in whatever order and however often. -/
def SameMembers {α : Type} (xs ys : List α) : Prop := xs ⊆ ys ∧ ys ⊆ xs

section

variable {α β ε : Type} {f : α → Except ε β} {xs xs' : List α} {ys : List β}

theorem mapM_eq_ok_iff : xs.mapM f = .ok ys ↔ List.Forall₂ (fun x y => f x = .ok y) xs ys := by
  induction xs generalizing ys with
  | nil => cases ys <;> simp [pure, Except.pure]
  | cons x xs ih =>
      rw [List.mapM_cons, bind_eq_ok_iff, List.forall₂_cons_left_iff]
      simp only [bind_eq_ok_iff, ih, pure, Except.pure, Except.ok.injEq]
      constructor
      · rintro ⟨y, head, ys, tail, rfl⟩
        exact ⟨y, ys, head, tail, rfl⟩
      · rintro ⟨y, ys, head, tail, rfl⟩
        exact ⟨y, head, ys, tail, rfl⟩

/-- The compiled entries are what the entries compile to. -/
theorem mem_of_mapM_eq_ok (h : xs.mapM f = .ok ys) {y : β} : y ∈ ys ↔ ∃ x ∈ xs, f x = .ok y := by
  have compiled := mapM_eq_ok_iff.mp h
  clear h
  induction compiled with
  | nil => simp
  | cons head _ ih => simp [head, ih, eq_comm]

/-- A list compiles if each of its entries does. -/
theorem exists_mapM_eq_ok_iff : (∃ ys, xs.mapM f = .ok ys) ↔ ∀ x ∈ xs, ∃ y, f x = .ok y := by
  constructor
  · rintro ⟨ys, h⟩
    have compiled := mapM_eq_ok_iff.mp h
    clear h
    induction compiled with
    | nil => simp
    | cons head _ ih => exact List.forall_mem_cons.mpr ⟨⟨_, head⟩, ih⟩
  · intro each
    induction xs with
    | nil => exact ⟨[], rfl⟩
    | cons x xs ih =>
        obtain ⟨y, head⟩ := each x List.mem_cons_self
        obtain ⟨ys, tail⟩ := ih fun x mem => each x (List.mem_cons_of_mem _ mem)
        exact ⟨y :: ys, mapM_eq_ok_iff.mpr (.cons head (mapM_eq_ok_iff.mp tail))⟩

/-- Lists with the same entries compile to lists with the same entries. -/
theorem SameMembers.exists_mapM (same : SameMembers xs xs') (h : xs.mapM f = .ok ys) :
    ∃ ys', xs'.mapM f = .ok ys' ∧ SameMembers ys ys' := by
  have each := exists_mapM_eq_ok_iff.mp ⟨ys, h⟩
  obtain ⟨ys', h'⟩ := exists_mapM_eq_ok_iff.mpr fun x mem => each x (same.2 mem)
  refine ⟨ys', h', fun y mem => ?_, fun y mem => ?_⟩
  · obtain ⟨x, mem, compiled⟩ := (mem_of_mapM_eq_ok h).mp mem
    exact (mem_of_mapM_eq_ok h').mpr ⟨x, same.1 mem, compiled⟩
  · obtain ⟨x, mem, compiled⟩ := (mem_of_mapM_eq_ok h').mp mem
    exact (mem_of_mapM_eq_ok h).mpr ⟨x, same.2 mem, compiled⟩

end

/-! ## Compiling a module

The exceptions of a module stand under two names in a declaration and in one list after compilation, so
the declarations are compared by what stands under both names together.
-/

namespace ModuleDeclaration

/-- Two declarations of a module that list the same entries, in whatever order and however often. An
exception may stand under either name. -/
structure SameEntries (d d' : ModuleDeclaration) : Prop where
  path : d.path = d'.path
  interface : SameMembers ((d.interface.map InterfaceDeclaration.patterns).getD [])
    ((d'.interface.map InterfaceDeclaration.patterns).getD [])
  dependencies : SameMembers d.dependencies d'.dependencies
  externals : Option.Rel SameMembers d.externals d'.externals
  exceptions : SameMembers (d.exceptions ++ d.techdebt) (d'.exceptions ++ d'.techdebt)

variable {compile : PatternCompiler} {d d' : ModuleDeclaration}

namespace SameEntries

/-- Patterns are reported under the path of the module, which is the same. -/
theorem owner_eq (h : d.SameEntries d') : d.owner = d'.owner :=
  congrArg PatternOwner.module h.path

theorem exists_compileExternals (h : d.SameEntries d') {e : Externals}
    (compiled : d.compileExternals compile = .ok e) :
    ∃ e', d'.compileExternals compile = .ok e' ∧ e.RelaxedTo e' ∧ e'.RelaxedTo e := by
  have entries := h.externals
  unfold compileExternals at compiled ⊢
  rw [← h.owner_eq]
  generalize d.externals = listed at compiled entries
  generalize d'.externals = listed' at entries ⊢
  cases entries with
  | none =>
      cases compiled
      exact ⟨.all, rfl, .all, .all⟩
  | some same =>
      obtain ⟨ps, patterns, only⟩ := bind_eq_ok_iff.mp compiled
      cases only
      obtain ⟨ps', patterns', more, less⟩ := same.exists_mapM patterns
      exact ⟨.only ps', bind_eq_ok_iff.mpr ⟨ps', patterns', rfl⟩, .only more, .only less⟩

/-- A declaration compiles to a module that grants the same as the module of any declaration with the
same entries. -/
theorem exists_compile (h : d.SameEntries d') {b : Boundary}
    (compiled : d.compile compile = .ok b) :
    ∃ b', d'.compile compile = .ok b' ∧ b.RelaxedTo b' ∧ b'.RelaxedTo b := by
  have compileDependency_eq : d'.compileDependency compile = d.compileDependency compile := by
    unfold compileDependency
    rw [h.owner_eq]
  have compileException_eq : d'.compileException compile = d.compileException compile := by
    unfold compileException
    rw [h.owner_eq]
  -- List by list: each one compiles since the other one with the same entries does, and to the same
  -- members.
  unfold ModuleDeclaration.compile at compiled ⊢
  obtain ⟨interface, h_interface, compiled⟩ := bind_eq_ok_iff.mp compiled
  obtain ⟨dependencies, h_dependencies, compiled⟩ := bind_eq_ok_iff.mp compiled
  obtain ⟨externals, h_externals, compiled⟩ := bind_eq_ok_iff.mp compiled
  obtain ⟨exceptions, h_exceptions, compiled⟩ := bind_eq_ok_iff.mp compiled
  cases compiled
  rw [← h.owner_eq, compileDependency_eq, compileException_eq]
  obtain ⟨interface', h_interface', more_interface, less_interface⟩ :=
    h.interface.exists_mapM h_interface
  obtain ⟨dependencies', h_dependencies', more_dependencies, less_dependencies⟩ :=
    h.dependencies.exists_mapM h_dependencies
  obtain ⟨externals', h_externals', more_externals, less_externals⟩ :=
    h.exists_compileExternals h_externals
  obtain ⟨exceptions', h_exceptions', more_exceptions, less_exceptions⟩ :=
    h.exceptions.exists_mapM h_exceptions
  have path : Path.normalize d.path = Path.normalize d'.path := congrArg Path.normalize h.path
  refine ⟨⟨Path.normalize d'.path, interface', dependencies', externals', exceptions', d'.note⟩, ?_,
    ⟨path, more_interface, more_dependencies, more_externals, more_exceptions⟩,
    ⟨path.symm, less_interface, less_dependencies, less_externals, less_exceptions⟩⟩
  exact bind_eq_ok_iff.mpr ⟨interface', h_interface', bind_eq_ok_iff.mpr ⟨dependencies',
    h_dependencies', bind_eq_ok_iff.mpr ⟨externals', h_externals', bind_eq_ok_iff.mpr
      ⟨exceptions', h_exceptions', rfl⟩⟩⟩⟩

end SameEntries

end ModuleDeclaration

end ImportBoundary
