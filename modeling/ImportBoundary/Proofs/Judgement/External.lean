import ImportBoundary.Proofs.Edge.Cell
import ImportBoundary.Proofs.Module.Nesting

/-!
# Where an external import leads

A module allows or bars externals by the destination. An import is barred as an external one only if
its destination lies outside of all modules, or if the module that bars it is nested in a module that
holds both ends (`edge_barred_destination`). The second case comes from the step into a module that
holds both ends: the judgement goes on among the nested modules alone, and a destination that belongs
to the module around them, but to none of them, is looked for in vain (`enclosed_destination_barred`).

On the source side this does not happen, because the siblings of the source's module are taken along:
a destination that was found once is found again.

In general a module elsewhere may hold the destination as well, one that lies outside of the module in
which it is nested and is never asked. The first statement therefore speaks of the modules along the
path of the destination, and well-formed forests have a stronger one, in which all modules that hold
the destination are named.
-/

namespace ImportBoundary

variable {r : Route} {scope : Scope} {v : Violation}

theorem Boundary.eq_invalidExternal_of_outbound {b : Boundary} {target : Option Boundary}
    (h : b.outbound target r = some v) (external : v.kind = .invalidExternal) :
    target = none ∧ v = b.invalidExternal := by
  unfold Boundary.outbound at h
  split at h <;> split at h <;> cases h
  · cases external
  · exact ⟨rfl, rfl⟩

/-- The violation says that the module `g` of the scope, which holds the importing file, bars the
import. -/
structure Bars (r : Route) (scope : Scope) (g : CompiledModule) (v : Violation) : Prop where
  mem : g ∈ Tree.trees scope
  holds : g.value.holds r.source
  violation : v = g.value.invalidExternal

/-- A module that holds both ends stands somewhere in the scope, and `g` is nested in it. -/
def EnclosedWithBoth (r : Route) (scope : Scope) (g : CompiledModule) : Prop :=
  ∃ m ∈ Tree.trees scope, m.value.holds r.source ∧ m.value.holds r.target ∧ g ∈ Tree.trees m.children

/-- Every module of the scope that holds the destination holds the importing file as well, and `g` is
nested in it. -/
def AroundOnly (r : Route) (scope : Scope) (g : CompiledModule) : Prop :=
  ∀ m ∈ Tree.trees scope, m.value.holds r.target → m.value.holds r.source ∧ g ∈ Tree.trees m.children

/-- If no module at the top of a well-formed scope holds the destination, none at all does. -/
theorem aroundOnly_of_outside {g : CompiledModule} (formed : WellFormed scope)
    (outside : ∀ m ∈ scope, ¬ m.value.holds r.target) : AroundOnly r scope g := by
  intro m mem holds
  obtain ⟨top, mem_top, top_holds⟩ := formed.exists_holds mem holds
  exact absurd top_holds (outside top mem_top)

/-- What lies around a module inside `m`, and `m` itself, is all that holds the destination in a
well-formed scope where `m` holds both ends. -/
theorem aroundOnly_of_inside {g m : CompiledModule} (formed : WellFormed scope) (mem : m ∈ scope)
    (source : m.value.holds r.source) (target : m.value.holds r.target)
    (below : g ∈ Tree.trees m.children) (inside : AroundOnly r m.children g) :
    AroundOnly r scope g := by
  intro n mem_n holds
  obtain ⟨top, mem_top, here_or_below⟩ := Tree.mem_trees.mp mem_n
  have top_holds : top.value.holds r.target := by
    rcases here_or_below with rfl | deeper
    · exact holds
    · obtain ⟨inner, mem_inner, inner_holds⟩ := (formed.inside mem_top).exists_holds deeper holds
      exact Boundary.holds_of_isUnder (formed.isUnder mem_top mem_inner) inner_holds
  obtain rfl : top = m := eq_of_holds formed.apart_top mem_top top_holds mem target
  rcases here_or_below with rfl | deeper
  · exact ⟨source, below⟩
  · exact inside n deeper holds

/-- An import is barred as an external one by a module of the scope. Either no module at the top holds
the destination, or the barring module is nested in one that holds both ends; and where the scope is
well formed, nothing but the modules around the barring one holds the destination. -/
theorem exists_bars (h : (judge r scope).violation = some v)
    (external : v.kind = .invalidExternal) :
    ∃ g, Bars r scope g v ∧
      ((∀ m ∈ scope, ¬ m.value.holds r.target) ∨ EnclosedWithBoth r scope g) ∧
      (WellFormed scope → AroundOnly r scope g) := by
  induction scope using scope_induction r.source with
  | step scope ih =>
      cases judge_violation_eq_some_iff.mp h with
      | refused _ _ _ found =>
          subst found
          cases external
      | @common f t source target same found =>
          obtain rfl : t = f := Located.eq_of_place
            ((scope_of_locate target).trans (scope_of_locate source).symm) same
          obtain ⟨g, bars, -, around⟩ := (ih t source).1 found
          have mem : t.module ∈ scope := mem_of_locate source
          have holds_source : t.boundary.holds r.source := holds_of_locate source
          have holds_target : t.boundary.holds r.target := holds_of_locate target
          refine ⟨g, ⟨Tree.mem_trees_of_mem_children mem bars.mem, bars.holds, bars.violation⟩,
            Or.inr ?_, fun formed => ?_⟩
          · exact ⟨t.module, Tree.mem_trees_of_mem mem, holds_source, holds_target, bars.mem⟩
          · exact aroundOnly_of_inside formed mem holds_source holds_target bars.mem
              (around (formed.inside mem))
      | @nested f source admitted _ _ found =>
          obtain ⟨g, bars, outside_or_enclosed, around⟩ := (ih f source).2 found
          obtain rfl := scope_of_locate source
          have mem := Located.mem_trees_of_insideBeside bars.mem
          refine ⟨g, ⟨mem, bars.holds, bars.violation⟩, ?_⟩
          cases target : locate r.target f.scope with
          | none =>
              have outside := locate_eq_none_iff.mp target
              exact ⟨Or.inl outside, fun formed => aroundOnly_of_outside formed outside⟩
          | some t =>
              -- The destination's module stands beside `f`, so it is found in the mixed scope too.
              have beside : t.module ∈ f.insideBeside :=
                Located.mem_insideBeside_of_place_ne (scope_of_locate target) (admitted t target).1
              have holds_target : t.boundary.holds r.target := holds_of_locate target
              constructor
              · rcases outside_or_enclosed with outside | ⟨m, mem_m, holds, below⟩
                · exact absurd holds_target (outside t.module beside)
                · exact Or.inr ⟨m, Located.mem_trees_of_insideBeside mem_m, holds, below⟩
              · intro formed
                obtain ⟨holds_source, -⟩ := around (Located.wellFormed_insideBeside formed) t.module
                  (Tree.mem_trees_of_mem beside) holds_target
                -- In a well-formed scope it would be `f` itself.
                have scopes : t.scope = f.scope := scope_of_locate target
                have found_source := locate_of_apart (scopes ▸ formed.apart_top) holds_source
                rw [scopes, source] at found_source
                cases found_source
                exact absurd rfl (admitted f target).1
      | @own f source admitted _ found =>
          obtain ⟨target, violation⟩ := Boundary.eq_invalidExternal_of_outbound found external
          have outside := locate_eq_none_iff.mp (Option.map_eq_none_iff.mp target)
          refine ⟨f.module, ⟨Tree.mem_trees_of_mem (mem_of_locate source), holds_of_locate source,
            violation⟩, Or.inl outside, fun formed => aroundOnly_of_outside formed outside⟩

/-- Whatever the modules of a forest are, an edge is barred as an external one only if its destination
lies in no module to which one comes down through modules that hold it, or if the barring module is
nested in one that holds both ends. In a well-formed forest all modules that hold the destination lie
around the barring one. -/
theorem edge_barred_destination {forest : Scope} (e : Edge) {cell : Edge.Cell} (keeps : e.Keeps cell)
    (found : ((e.judge forest).run cell).1.violation = some v)
    (external : v.kind = .invalidExternal) :
    ∃ g, Bars e.route forest g v ∧
      ((∀ m, LiesAlong e.target m forest → ¬ m.value.holds e.target) ∨
        EnclosedWithBoth e.route forest g) ∧
      (WellFormed forest → AroundOnly e.route forest g) := by
  rw [(e.yields_judge forest).run_fst keeps] at found
  obtain ⟨g, bars, outside_or_enclosed, around⟩ := exists_bars found external
  refine ⟨g, bars, outside_or_enclosed.imp_left ?_, around⟩
  intro outside m along holds
  obtain ⟨top, mem, top_holds⟩ := along.exists_holds holds
  exact outside top mem top_holds

/-- A module with a nested one that allows no externals. -/
def enclosing : Scope :=
  [.node ⟨⟨"src/p"⟩, [], [], .all, [], none⟩
    [.node ⟨⟨"src/p/child"⟩, [], [], .only [], [], none⟩ []]]

/-- A file of the nested module imports a file of the module around it. -/
def siblingFileImport : Edge := ⟨"src/p/child/x.ts", "../other", ⟨"."⟩⟩

/-- The destination belongs to a module, and the import is barred as an external one all the same. -/
theorem enclosed_destination_barred :
    WellFormed enclosing ∧
      ((siblingFileImport.judge enclosing).run none).1.violation =
        some ⟨.invalidExternal, some ⟨"src/p/child"⟩, none, none⟩ ∧
      ∃ m ∈ Tree.trees enclosing, m.value.holds siblingFileImport.target := by
  refine ⟨by decide, by decide +kernel, ?_⟩
  exact ⟨_, List.mem_cons_self, by decide +kernel⟩

/-- The same modules, with a sibling and inside another module. -/
def enclosingTwice : Scope :=
  [.node ⟨⟨"src"⟩, [], [], .all, [], none⟩
    (enclosing ++ [.node ⟨⟨"src/q"⟩, [], [], .all, [], none⟩ []])]

/-- An import that leads out of two nested modules, but not out of the one around them, is barred by the
innermost one. All modules that hold its destination lie around that one. -/
theorem edge_barred_destination_enclosing :
    let e : Edge := ⟨"src/p/child/x.ts", "../../lib", ⟨"."⟩⟩
    e.Keeps none ∧ ∃ g : CompiledModule, g.value.path = ⟨"src/p/child"⟩ ∧ g.value.holds e.source ∧
      ∀ m ∈ Tree.trees enclosingTwice, m.value.holds e.target → g ∈ Tree.trees m.children := by
  intro e
  have found : ((e.judge enclosingTwice).run none).1.violation =
      some ⟨.invalidExternal, some ⟨"src/p/child"⟩, none, none⟩ := by decide +kernel
  obtain ⟨g, bars, -, around⟩ := edge_barred_destination e e.keeps_none found rfl
  have path := congrArg Violation.sourceModule bars.violation
  refine ⟨e.keeps_none, g, (Option.some.inj path).symm, bars.holds, fun m mem holds => ?_⟩
  exact (around (by decide) m mem holds).2

end ImportBoundary
