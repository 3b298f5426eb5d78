import ImportBoundary.Proofs.Edge.Cell
import ImportBoundary.Proofs.Judgement.Course
import ImportBoundary.Proofs.Module.Nesting

/-!
# The grounds of a violation

A violation is found deep inside a search that goes down into modules, mixes nested modules with the
siblings of the module around them, and hands on what it finds there. Whatever the modules of a scope
are, also if they overlap or stick out of each other, the violation that comes out rests on modules of
the scope: they hold the ends of the import, and none of the lists that could allow it does so
(`Grounds`, `edge_violation_grounded`).

The proof has one case for each step of the judgement (`Finds`). A step into a smaller scope leads to
modules of the scope around it, so grounds stay grounds (`Grounds.of_trees_subset`).
-/

namespace ImportBoundary

/-- The violation rests on modules of the forest, at whatever depth. -/
inductive Grounds (r : Route) (forest : Scope) : Violation → Prop
  /-- A module holds the destination and neither publishes it nor excuses the import. -/
  | hidden {t : CompiledModule} : t ∈ Tree.trees forest → t.value.holds r.target →
      ¬ t.value.Publishes r → ¬ t.value.Excuses r →
      Grounds r forest ⟨.privateImplementation, none, some t.value.path, t.value.note⟩
  /-- A module holds the importing file, and neither names the module of another path which holds the
  destination nor excuses the import. -/
  | undeclared {f t : CompiledModule} : f ∈ Tree.trees forest → t ∈ Tree.trees forest →
      f.value.holds r.source → t.value.holds r.target → f.value.path ≠ t.value.path →
      ¬ f.value.Names t.value.path r → ¬ f.value.Excuses r →
      Grounds r forest ⟨.notADependency, some f.value.path, some t.value.path, f.value.note⟩
  /-- A module holds the importing file and lists its externals, and neither does the destination match
  the list nor does the module excuse the import. -/
  | barred {f : CompiledModule} {patterns : List Pattern} : f ∈ Tree.trees forest →
      f.value.holds r.source → f.value.externals = .only patterns →
      (∀ p ∈ patterns, ¬ p.accepts r.target.text) → ¬ f.value.Excuses r →
      Grounds r forest ⟨.invalidExternal, some f.value.path, none, f.value.note⟩

variable {r : Route} {scope forest : Scope} {v : Violation}

/-- Grounds in a forest are grounds in every forest that has its modules. -/
theorem Grounds.of_trees_subset (subset : Tree.trees scope ⊆ Tree.trees forest)
    (h : Grounds r scope v) : Grounds r forest v := by
  cases h with
  | hidden mem holds unpublished unexcused => exact .hidden (subset mem) holds unpublished unexcused
  | undeclared mem_f mem_t source target apart unnamed unexcused =>
      exact .undeclared (subset mem_f) (subset mem_t) source target apart unnamed unexcused
  | barred mem source only unlisted unexcused => exact .barred (subset mem) source only unlisted unexcused

/-! ## The steps of the judgement

Two steps end with a violation of their own, and each has its grounds in the scope at hand: the module
that refuses the import (`Grounds.of_refused`), and the module of the importing file which does not
allow it (`Grounds.of_outbound`). The second one takes an argument for a missing dependency. The two
modules have different paths, which the judgement never compares, because it tells the modules apart by
their places.
-/

/-- A module that does not let an import in gives the grounds for refusing it. -/
theorem Grounds.of_refused {t : Located} (target : locate r.target scope = some t)
    (refused : t.boundary.admits r = false) : Grounds r scope t.boundary.privateImplementation := by
  have refused : ¬ (t.boundary.Publishes r ∨ t.boundary.Excuses r) := by
    rw [← Boundary.admits_iff, refused]
    exact Bool.false_ne_true
  rw [not_or] at refused
  exact .hidden (Tree.mem_trees_of_mem (mem_of_locate target)) (holds_of_locate target)
    refused.1 refused.2

/-- Modules of one path hold the same files, so the modules at two places, each of them the first one
that holds its end of the import, have different paths. -/
theorem path_ne_of_place_ne {f t : Located} (source : locate r.source scope = some f)
    (target : locate r.target scope = some t) (apart : t.place ≠ f.place) :
    f.boundary.path ≠ t.boundary.path := by
  intro same
  have holds (p : Path) : f.boundary.holds p = t.boundary.holds p := by
    rw [Boundary.holds, Boundary.holds, same]
  refine apart ((place_eq_iff source target).mpr ⟨?_, ?_⟩)
  · rw [holds]
    exact holds_of_locate target
  · rw [← holds]
    exact holds_of_locate source

/-- A module of the importing file that does not allow an import gives the grounds for it. -/
theorem Grounds.of_outbound {f : Located} (source : locate r.source scope = some f)
    (apart : ∀ t, locate r.target scope = some t → t.place ≠ f.place)
    (found : f.boundary.outbound ((locate r.target scope).map Located.boundary) r = some v) :
    Grounds r scope v := by
  have mem := Tree.mem_trees_of_mem (mem_of_locate source)
  have holds : f.boundary.holds r.source := holds_of_locate source
  -- The destination lies in a module, and the import is undeclared, or in none, and it is barred.
  cases target : locate r.target scope with
  | some t =>
      rw [target, Option.map_some, Boundary.outbound] at found
      split at found
      · cases found
      · next refused =>
        cases found
        rw [Boundary.dependsOn_iff, not_or] at refused
        exact .undeclared mem (Tree.mem_trees_of_mem (mem_of_locate target)) holds
          (holds_of_locate target) (path_ne_of_place_ne source target (apart t target))
          refused.1 refused.2
  | none =>
      rw [target, Option.map_none, Boundary.outbound] at found
      split at found
      · cases found
      · next refused =>
        cases found
        rw [Boundary.allowsExternal_iff, not_or] at refused
        obtain ⟨unlisted, unexcused⟩ := refused
        simp only [Boundary.LetsOut, not_forall] at unlisted
        obtain ⟨patterns, only, unlisted⟩ := unlisted
        exact .barred mem holds only (fun p mem_p accepts => unlisted ⟨p, mem_p, accepts⟩) unexcused

/-- A violation that the judgement comes to has its grounds in the scope. -/
theorem grounds_of_judge (h : (judge r scope).violation = some v) : Grounds r scope v := by
  induction scope using scope_induction r.source with
  | step scope ih =>
      cases judge_violation_eq_some_iff.mp h with
      | refused target _ refused found => exact found ▸ .of_refused target refused
      | @common f _ source _ _ found =>
          refine ((ih f source).1 found).of_trees_subset fun m mem => ?_
          exact Tree.mem_trees_of_mem_children (mem_of_locate source) mem
      | @nested f source _ _ _ found =>
          refine ((ih f source).2 found).of_trees_subset fun m mem => ?_
          rw [← scope_of_locate source]
          exact Located.mem_trees_of_insideBeside mem
      | own source admitted _ found =>
          exact .of_outbound source (fun t target => (admitted t target).1) found

/-- Whatever the modules of a scope are, the judgement of an edge names the module of the scope that
`locate` finds for the importing file, and if it comes to a violation, the violation has its grounds in
the scope. -/
theorem edge_violation_grounded (e : Edge) {cell : Edge.Cell} (keeps : e.Keeps cell) (scope : Scope) :
    ((e.judge scope).run cell).1.source = (locate e.source scope).map Located.module ∧
      ∀ v, ((e.judge scope).run cell).1.violation = some v → Grounds e.route scope v := by
  rw [(e.yields_judge scope).run_fst keeps]
  exact ⟨judge_source e.route scope, fun v found => grounds_of_judge found⟩

/-- Overlapping siblings, of which the first one has a module nested in it that lies elsewhere. -/
def straggling : Scope :=
  [.node ⟨⟨"src"⟩, [], [], .all, [], none⟩
      [.node ⟨⟨"lib/x"⟩, [], [], .all, [], none⟩ []],
    .node ⟨⟨"src/a"⟩, [], [⟨⟨"lib"⟩, [⟨"", .empty⟩]⟩], .all, [], some "Ask the owners."⟩ [],
    .node ⟨⟨"vendor"⟩, [⟨"", .empty⟩], [], .all, [], none⟩ []]

/-- The file is located in the first sibling, and the second one is blamed: it holds the file and does
not name the module of the destination. -/
theorem edge_violation_grounded_straggling :
    let e : Edge := ⟨"src/a/f.ts", "vendor/kit", ⟨"."⟩⟩
    let v : Violation :=
      ⟨.notADependency, some ⟨"src/a"⟩, some ⟨"vendor"⟩, some "Ask the owners."⟩
    e.Keeps none ∧ ((e.judge straggling).run none).1.violation = some v ∧
      ((e.judge straggling).run none).1.source = (locate e.source straggling).map Located.module ∧
      Grounds e.route straggling v := by
  intro e v
  have found : ((e.judge straggling).run none).1.violation = some v := by decide +kernel
  obtain ⟨source, grounds⟩ := edge_violation_grounded e e.keeps_none straggling
  exact ⟨e.keeps_none, found, source, grounds v found⟩

end ImportBoundary
