import ImportBoundary.Proofs.Edge.Cell
import ImportBoundary.Proofs.Module.Entries

/-!
# Relaxed rules reject no more

A forest of modules is relaxed when its modules publish more, depend on more and except more, and their
lists of externals grow or go away, while paths and shape stay. An import that was allowed stays
allowed (`judge_violation_of_relaxed`), although the judgement stops at the first module that objects
and may come to another one once that module has given in. Reordering or repeating the entries of a
module relaxes it in both directions, so it changes nothing (`edge_allowed_of_relaxed`).

Exceptions and notes need no case of their own. An exception excuses an import in every test that a
module makes, so more exceptions relax all of these tests, and the note of a module is never asked.
-/

namespace ImportBoundary

variable {r : Route}

namespace Boundary.RelaxedTo

variable {a b : Boundary} {t u : Option Boundary}

theorem excuses (h : a.RelaxedTo b) (excused : a.Excuses r) : b.Excuses r := by
  obtain ⟨e, mem, covers⟩ := excused
  exact ⟨e, h.exceptions mem, covers⟩

theorem admits (h : a.RelaxedTo b) (admitted : a.admits r) : b.admits r := by
  refine admits_iff.mpr ((admits_iff.mp admitted).imp ?_ h.excuses)
  rintro ⟨p, mem, accepts⟩
  exact ⟨p, h.interface mem, accepts⟩

theorem dependsOn (h : a.RelaxedTo b) {path : Path} (allowed : a.dependsOn path r) :
    b.dependsOn path r := by
  refine dependsOn_iff.mpr ((dependsOn_iff.mp allowed).imp ?_ h.excuses)
  rintro ⟨d, mem, covers⟩
  exact ⟨d, h.dependencies mem, covers⟩

theorem allowsExternal (h : a.RelaxedTo b) (allowed : a.allowsExternal r) : b.allowsExternal r := by
  refine allowsExternal_iff.mpr ((allowsExternal_iff.mp allowed).imp ?_ h.excuses)
  intro letsOut patterns only
  have relaxed := h.externals
  rw [only] at relaxed
  generalize listed : a.externals = e at relaxed
  cases relaxed with
  | only more =>
      obtain ⟨p, mem, accepts⟩ := letsOut _ listed
      exact ⟨p, more mem, accepts⟩

/-- What the importing file's module has nothing to say against, the relaxed module has not either. -/
theorem outbound (h : a.RelaxedTo b) (targets : Option.Rel Boundary.RelaxedTo t u)
    (allowed : a.outbound t r = none) : b.outbound u r = none := by
  cases targets with
  | none =>
      have granted : a.allowsExternal r := by simpa [Boundary.outbound] using allowed
      exact if_pos (h.allowsExternal granted)
  | @some t u target =>
      have granted : a.dependsOn t.path r := by simpa [Boundary.outbound] using allowed
      rw [target.path] at granted
      exact if_pos (h.dependsOn granted)

end Boundary.RelaxedTo

/-! ## The judgement

In relaxed modules the two ends are located at the same places as before, since the paths are the same
(`exists_located_alike`). So the two judgements part only where the one in the relaxed modules goes on
after a test that stopped the other one, and then the import was not allowed to begin with.
-/

/-- What the modules of a scope let in, relaxed modules let in. -/
theorem admits_of_relaxed {s t : Scope} (h : Tree.Alike Boundary.RelaxedTo s t)
    (admitted : ∀ l, locate r.target s = some l → l.boundary.admits r) :
    ∀ k, locate r.target t = some k → k.boundary.admits r := by
  intro k found
  obtain ⟨l, found', alike⟩ := exists_located_alike (fun _ _ relaxed => relaxed.path) h found
  exact alike.boundary.admits (admitted l found')

/-- An import that is allowed stays allowed when the modules are relaxed. -/
theorem judge_violation_of_relaxed {s t : Scope} (h : Tree.Alike Boundary.RelaxedTo s t)
    (allowed : (judge r s).violation = none) : (judge r t).violation = none := by
  have paths : ∀ a b : Boundary, a.RelaxedTo b → a.path = b.path := fun _ _ relaxed => relaxed.path
  -- The ends are located at the same places in both scopes, so both judgements take the same step.
  induction s using scope_induction r.source generalizing t with
  | step s ih =>
      cases source' : locate r.source t with
      | none =>
          have source : locate r.source s = none := by
            simpa [source'] using isSome_locate_alike paths h r.source
          rw [judge_violation_eq_none_iff_of_ownerless source] at allowed
          rw [judge_violation_eq_none_iff_of_ownerless source']
          exact admits_of_relaxed h allowed
      | some f' =>
          obtain ⟨f, source, alike⟩ := exists_located_alike paths h source'
          by_cases common : (locate r.target t).map Located.place = some f'.place
          · obtain ⟨u', target', same'⟩ := Option.map_eq_some_iff.mp common
            obtain ⟨u, target, alike_target⟩ := exists_located_alike paths h target'
            have same : u.place = f.place := by
              rw [alike_target.place_eq, alike.place_eq, same']
            rw [judge_of_common source target same] at allowed
            rw [judge_of_common source' target' same']
            exact (ih f source).1 alike.inside allowed
          · have apart' : ∀ u', locate r.target t = some u' → u'.place ≠ f'.place :=
              fun u' target' same' => common (by rw [target', Option.map_some, same'])
            rw [← place_locate_alike paths h, ← alike.place_eq] at common
            have apart : ∀ u, locate r.target s = some u → u.place ≠ f.place :=
              fun u target same => common (by rw [target, Option.map_some, same])
            rw [judge_violation_eq_none_iff_of_apart source apart] at allowed
            rw [judge_violation_eq_none_iff_of_apart source' apart']
            obtain ⟨admitted, answered⟩ := allowed
            refine ⟨admits_of_relaxed h admitted, ?_⟩
            simp only [← isSome_locate_alike paths alike.insideBeside, ne_eq,
              ← alike.inside.eq_nil_iff]
            split at answered
            · next owned =>
                rw [if_pos owned]
                exact (ih f source).2 alike.insideBeside answered
            · next unowned =>
                rw [if_neg unowned]
                exact alike.boundary.outbound (boundary_locate_alike paths h r.target) answered

/-- An edge that is allowed stays allowed when the modules of the scope are relaxed. Which edges are
allowed does not depend on the order and the repetition of the entries in the declarations. -/
theorem edge_allowed_of_relaxed :
    (∀ s t : Scope, Tree.Alike Boundary.RelaxedTo s t →
      ∀ (e : Edge) (cell : Edge.Cell), e.Keeps cell →
        ((e.judge s).run cell).1.violation = none → ((e.judge t).run cell).1.violation = none) ∧
    (∀ (compile : PatternCompiler) (forest forest' : List DeclaredModule),
      Tree.Alike ModuleDeclaration.SameEntries forest forest' →
      ∀ s : Scope, compileModules compile forest = .ok s →
        ∃ t, compileModules compile forest' = .ok t ∧
          ∀ (e : Edge) (cell : Edge.Cell), e.Keeps cell →
            (((e.judge s).run cell).1.violation = none ↔
              ((e.judge t).run cell).1.violation = none)) := by
  have relaxed_allows (s t : Scope) (h : Tree.Alike Boundary.RelaxedTo s t) (e : Edge)
      (cell : Edge.Cell) (keeps : e.Keeps cell)
      (allowed : ((e.judge s).run cell).1.violation = none) :
      ((e.judge t).run cell).1.violation = none := by
    rw [(e.yields_judge s).run_fst keeps] at allowed
    rw [(e.yields_judge t).run_fst keeps]
    exact judge_violation_of_relaxed h allowed
  refine ⟨relaxed_allows, ?_⟩
  intro compile forest forest' h s compiled
  obtain ⟨t, compiled', alike⟩ := h.exists_traverse
    (fun _ _ same _ compiled => same.exists_compile compiled) compiled
  refine ⟨t, compiled', fun e cell keeps => ⟨?_, ?_⟩⟩
  · exact relaxed_allows s t (alike.imp fun _ _ both => both.1) e cell keeps
  · exact relaxed_allows t s (alike.imp fun _ _ both => both.2).flip e cell keeps

/-- An application which may import two libraries, one of them named twice. -/
def repeated : List DeclaredModule :=
  [.node { path := "app", dependencies := [.whole "lib", .whole "core", .whole "core"] } [],
    .node { path := "core", interface := some (.many ["api", "util"]) } []]

/-- The same with other orders and other repetitions. -/
def reordered : List DeclaredModule :=
  [.node { path := "app", dependencies := [.whole "core", .whole "lib"] } [],
    .node { path := "core", interface := some (.many ["util", "api", "api"]) } []]

theorem repeated_sameEntries_reordered :
    Tree.Alike ModuleDeclaration.SameEntries repeated reordered := by
  refine .cons ⟨rfl, ?_, ?_, .none, ?_⟩ .nil (.cons ⟨rfl, ?_, ?_, .none, ?_⟩ .nil .nil) <;>
    constructor <;> decide

/-- An application with dependencies, next to a library that lets everything in. -/
def application (dependencies : List Dependency) : Scope :=
  [.node ⟨⟨"app"⟩, [], dependencies, .only [], [], none⟩ [],
    .node ⟨⟨"core"⟩, [⟨"", .empty⟩], [], .only [], [], none⟩ []]

/-- The import of a file of the library stands and falls with the dependency on it. One more dependency
does not forbid it, and neither does another order of the entries. -/
theorem edge_allowed_of_relaxed_application :
    let e : Edge := ⟨"app/f.ts", "../core/api", ⟨"."⟩⟩
    (e.Keeps none ∧ ((e.judge (application [])).run none).1.violation ≠ none ∧
      ((e.judge (application [⟨⟨"core"⟩, []⟩])).run none).1.violation = none ∧
      ((e.judge (application [⟨⟨"lib"⟩, []⟩, ⟨⟨"core"⟩, []⟩])).run none).1.violation = none) ∧
    ∃ s t, compileModules Pattern.compile repeated = .ok s ∧
      compileModules Pattern.compile reordered = .ok t ∧
      ((e.judge s).run none).1.violation = none ∧ ((e.judge t).run none).1.violation = none := by
  intro e
  have forbidden : ((e.judge (application [])).run none).1.violation ≠ none := by decide +kernel
  have allowed : ((e.judge (application [⟨⟨"core"⟩, []⟩])).run none).1.violation = none := by
    decide +kernel
  have more : Tree.Alike Boundary.RelaxedTo (application [⟨⟨"core"⟩, []⟩])
      (application [⟨⟨"lib"⟩, []⟩, ⟨⟨"core"⟩, []⟩]) :=
    .cons ⟨rfl, List.Subset.refl _, List.subset_cons_self _ _, .only (List.Subset.refl _),
        List.Subset.refl _⟩ .nil
      (.cons ⟨rfl, List.Subset.refl _, List.Subset.refl _, .only (List.Subset.refl _),
        List.Subset.refl _⟩ .nil .nil)
  have judged : (compileModules Pattern.compile repeated).toOption.map
      (fun s => ((e.judge s).run none).1.violation) = some none := by decide +kernel
  refine ⟨⟨e.keeps_none, forbidden, allowed,
    edge_allowed_of_relaxed.1 _ _ more e none e.keeps_none allowed⟩, ?_⟩
  obtain ⟨s, compiled⟩ : ∃ s, compileModules Pattern.compile repeated = .ok s := by
    cases outcome : compileModules Pattern.compile repeated with
    | ok s => exact ⟨s, rfl⟩
    | error error => simp [outcome, Except.toOption] at judged
  rw [compiled] at judged
  have first : ((e.judge s).run none).1.violation = none := Option.some.inj judged
  obtain ⟨t, compiled', iff⟩ :=
    edge_allowed_of_relaxed.2 _ _ _ repeated_sameEntries_reordered s compiled
  exact ⟨s, t, compiled, compiled', first, (iff e none e.keeps_none).mp first⟩

end ImportBoundary
