import ImportBoundary.Proofs.Judgement.Rule

/-!
# Encapsulation

An import that is allowed has been let in where it leads, by the outermost of the modules that hold the
destination and leave the importing file out (`edge_admitted`). The modules nested in that one are not
asked: what a module publishes, it publishes for the modules nested in it (`nested_interface_unasked`).

Both statements are about well-formed forests. The induction goes down along the path of the importing
file: as long as a module holds both ends the judgement is that of the scope inside it, and in the
first scope where the ends part the destination's module is asked before anything else.
-/

namespace ImportBoundary

variable {r : Route} {scope : Scope} {m : CompiledModule}

/-- If an import is allowed in a scope, a module of it that holds the destination and not the importing
file lets the import in. -/
theorem admits_of_mem (formed : WellFormed scope) (allowed : (judge r scope).violation = none)
    (mem : m ∈ scope) (target : m.value.holds r.target) (source : ¬ m.value.holds r.source) :
    m.value.admits r := by
  obtain ⟨t, found, same⟩ := locate_target_of_mem formed mem target
  rw [← same] at source ⊢
  cases owner : locate r.source scope with
  | none => exact (judge_violation_eq_none_iff_of_ownerless owner).mp allowed t found
  | some f =>
      have apart : ∀ u, locate r.target scope = some u → u.place ≠ f.place := by
        intro u found' place
        rw [found] at found'
        cases found'
        have equal : t = f := Located.eq_of_place
          ((scope_of_locate found).trans (scope_of_locate owner).symm) place
        subst equal
        exact source (holds_of_locate owner)
      exact ((judge_violation_eq_none_iff_of_apart owner apart).mp allowed).1 t found

/-- A module that holds the destination and not the importing file lets an allowed import in, if the
modules around it hold the importing file. -/
theorem admits_of_liesAlong (formed : WellFormed scope) (allowed : (judge r scope).violation = none)
    (along : LiesAlong r.source m scope) (target : m.value.holds r.target)
    (source : ¬ m.value.holds r.source) : m.value.admits r := by
  induction along with
  | top mem => exact admits_of_mem formed allowed mem target source
  | @inside scope outer mem outer_source along ih =>
      -- The module around `m` holds both ends, so the import has been judged inside it.
      have inside : WellFormed outer.children := formed.inside mem
      obtain ⟨inner, mem_inner, inner_target⟩ := inside.exists_holds along.mem_trees target
      have outer_target : outer.value.holds r.target :=
        Boundary.holds_of_isUnder (formed.isUnder mem mem_inner) inner_target
      rw [judge_violation_of_common formed mem outer_source outer_target] at allowed
      exact ih inside allowed

/-- If an edge is allowed in a well-formed forest, every module that holds the destination and not the
importing file, while the modules around it hold the importing file, publishes the destination or
excuses the import. -/
theorem edge_admitted {forest : Scope} (formed : WellFormed forest) (e : Edge) {cell : Edge.Cell}
    (keeps : e.Keeps cell) (allowed : ((e.judge forest).run cell).1.violation = none)
    (along : LiesAlong e.source m forest) (target : m.value.holds e.target)
    (source : ¬ m.value.holds e.source) :
    m.value.Publishes e.route ∨ m.value.Excuses e.route := by
  rw [(e.yields_judge forest).run_fst keeps] at allowed
  exact Boundary.admits_iff.mp (admits_of_liesAlong formed allowed along target source)

/-- A module that publishes all of its files, with a nested one that publishes none. -/
def publishedWhole : Scope :=
  [.node ⟨⟨"src/lib"⟩, [⟨"", .empty⟩], [], .all, [], none⟩
    [.node ⟨⟨"src/lib/core"⟩, [], [], .all, [], none⟩ []]]

/-- A file outside may import a file of the nested module, which has not published it. -/
theorem nested_interface_unasked :
    let e : Edge := ⟨"src/main.ts", "./lib/core/secret", ⟨"."⟩⟩
    WellFormed publishedWhole ∧ ((e.judge publishedWhole).run none).1.violation = none ∧
      ∃ m ∈ Tree.trees publishedWhole, m.value.holds e.target ∧ ¬ m.value.holds e.source ∧
        ¬ (m.value.Publishes e.route ∨ m.value.Excuses e.route) := by
  refine ⟨by decide, by decide +kernel, _, List.mem_cons_of_mem _ List.mem_cons_self,
    by decide +kernel, by decide +kernel, ?_⟩
  rintro (⟨p, mem, -⟩ | ⟨e, mem, -⟩)
  · cases mem
  · cases mem

/-- Two modules nested in a third one. The second depends on the first, which publishes its files. -/
def layered : Scope :=
  [.node ⟨⟨"app"⟩, [], [], .only [], [], none⟩
    [.node ⟨⟨"app/api"⟩, [⟨"", .empty⟩], [], .all, [], none⟩ [],
      .node ⟨⟨"app/ui"⟩, [], [⟨⟨"app/api"⟩, []⟩], .all, [], none⟩ []]]

/-- An allowed import between the nested modules has been let in by the one it leads into. -/
theorem edge_admitted_layered :
    let e : Edge := ⟨"app/ui/page.ts", "../api/index", ⟨"."⟩⟩
    WellFormed layered ∧ e.Keeps none ∧ ((e.judge layered).run none).1.violation = none ∧
      ∃ m, LiesAlong e.source m layered ∧ m.value.holds e.target ∧ ¬ m.value.holds e.source ∧
        (m.value.Publishes e.route ∨ m.value.Excuses e.route) := by
  intro e
  have formed : WellFormed layered := by decide
  have allowed : ((e.judge layered).run none).1.violation = none := by decide +kernel
  have along : LiesAlong e.source (.node ⟨⟨"app/api"⟩, [⟨"", .empty⟩], [], .all, [], none⟩ []) layered :=
    .inside List.mem_cons_self (by decide +kernel) (.top List.mem_cons_self)
  refine ⟨formed, e.keeps_none, allowed, _, along, by decide +kernel, by decide +kernel, ?_⟩
  exact edge_admitted formed e e.keeps_none allowed along (by decide +kernel) (by decide +kernel)

end ImportBoundary
