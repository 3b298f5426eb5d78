import Mathlib.Logic.Basic
import ImportBoundary.Proofs.Edge.Cell
import ImportBoundary.Proofs.Module.Nesting

/-!
# The rule behind the judgement

`Ruling` says which violation an import is, without following the search of `judge`. It goes down
while one module holds both ends; where the ends part, it asks first the destination's module, and
then the deepest module that holds the importing file. In a well-formed forest it gives every import
exactly one answer, the one that `judge` gives (`judge_violation_iff`), and so does an edge that is
judged by its two ends (`edge_violation_iff_ruling`).

The judgement reaches the deepest module by another way: it mixes the nested modules of the source
module with that module's siblings, and in this scope it asks the destination's module again. The
proof rests on what the mixed scope keeps (`Answers.insideBeside`): it is well formed, the ends are
still apart in it, and it finds the destination in the same module as before.
-/

namespace ImportBoundary

/-- The deepest module that holds a path, on the way down from a module through nested modules that
hold the path. -/
inductive Deepest (p : Path) : CompiledModule → Boundary → Prop
  | here {m : CompiledModule} : (∀ inner ∈ m.children, ¬ inner.value.holds p) → Deepest p m m.value
  | inside {m inner : CompiledModule} {g : Boundary} : inner ∈ m.children →
      inner.value.holds p → Deepest p inner g → Deepest p m g

/-- No module of the scope holds both ends of the import. -/
def Parted (r : Route) (scope : Scope) : Prop :=
  ∀ m ∈ scope, m.value.holds r.source → ¬ m.value.holds r.target

/-- A module of the scope that holds the destination publishes it or excuses the import. -/
def Admitted (r : Route) (scope : Scope) : Prop :=
  ∀ t ∈ scope, t.value.holds r.target → t.value.Publishes r ∨ t.value.Excuses r

/-- The ends part in the scope, the import is let in where it leads, and `g` is the deepest module
that holds the importing file: the module that has to allow the import. -/
structure Answers (r : Route) (scope : Scope) (g : Boundary) : Prop where
  parted : Parted r scope
  admitted : Admitted r scope
  owner : ∃ f ∈ scope, f.value.holds r.source ∧ Deepest r.source f g

/-- What the modules of a scope make of an import: the violation, or nothing if it is allowed. -/
inductive Ruling (r : Route) : Scope → Option Violation → Prop
  /-- An import inside a module without nested modules is allowed. -/
  | inLeaf {scope : Scope} {m : CompiledModule} : m ∈ scope → m.value.holds r.source →
      m.value.holds r.target → m.children = [] → Ruling r scope none
  /-- An import inside a module with nested modules is up to these. -/
  | inside {scope : Scope} {m : CompiledModule} {v : Option Violation} : m ∈ scope →
      m.value.holds r.source → m.value.holds r.target → m.children ≠ [] →
      Ruling r m.children v → Ruling r scope v
  /-- The destination's module neither publishes the destination nor excuses the import. -/
  | hidden {scope : Scope} {t : CompiledModule} : Parted r scope → t ∈ scope →
      t.value.holds r.target → ¬ (t.value.Publishes r ∨ t.value.Excuses r) →
      Ruling r scope (some ⟨.privateImplementation, none, some t.value.path, t.value.note⟩)
  /-- A file outside of all modules may import what it is let in to. -/
  | ownerless {scope : Scope} : Parted r scope → Admitted r scope →
      (∀ f ∈ scope, ¬ f.value.holds r.source) → Ruling r scope none
  /-- The importing file's module depends on the destination's module. -/
  | declared {scope : Scope} {g : Boundary} {t : CompiledModule} : Answers r scope g → t ∈ scope →
      t.value.holds r.target → g.Names t.value.path r ∨ g.Excuses r → Ruling r scope none
  /-- The importing file's module does not depend on the destination's module. -/
  | undeclared {scope : Scope} {g : Boundary} {t : CompiledModule} : Answers r scope g →
      t ∈ scope → t.value.holds r.target → ¬ (g.Names t.value.path r ∨ g.Excuses r) →
      Ruling r scope (some ⟨.notADependency, some g.path, some t.value.path, g.note⟩)
  /-- The importing file's module allows an import from outside of all modules. -/
  | external {scope : Scope} {g : Boundary} : Answers r scope g →
      (∀ t ∈ scope, ¬ t.value.holds r.target) → g.LetsOut r ∨ g.Excuses r → Ruling r scope none
  /-- The importing file's module does not allow an import from outside of all modules. -/
  | barred {scope : Scope} {g : Boundary} : Answers r scope g →
      (∀ t ∈ scope, ¬ t.value.holds r.target) → ¬ (g.LetsOut r ∨ g.Excuses r) →
      Ruling r scope (some ⟨.invalidExternal, some g.path, none, g.note⟩)

variable {r : Route} {scope : Scope} {g : Boundary}

/-! ## The rule gives an answer

The rule asks questions that the modules of a forest answer one way or the other: whether one of them
holds both ends, whether the destination is let in, and whether a module holds the importing file.
Going through the answers shows that at least one case of the rule applies, whatever the forest. That
at most one does needs a well-formed forest, and it comes out at the end: every case agrees with the
judgement, which is a function.
-/

/-- There is a deepest module on every way down. -/
theorem exists_deepest (p : Path) (forest : Scope) : ∀ m ∈ forest, ∃ g, Deepest p m g := by
  induction forest using Tree.children_induction with
  | step forest ih =>
      intro m mem
      by_cases held : ∃ inner ∈ m.children, inner.value.holds p
      · obtain ⟨inner, mem_inner, holds⟩ := held
        obtain ⟨g, deepest⟩ := ih m mem inner mem_inner
        exact ⟨g, .inside mem_inner holds deepest⟩
      · exact ⟨m.value, .here fun inner mem_inner holds => held ⟨inner, mem_inner, holds⟩⟩

/-- Where the ends part, the rule gives an answer. -/
theorem exists_ruling_of_parted (parted : Parted r scope) : ∃ v, Ruling r scope v := by
  by_cases admitted : Admitted r scope
  · by_cases owned : ∃ f ∈ scope, f.value.holds r.source
    · obtain ⟨f, mem, holds⟩ := owned
      obtain ⟨g, deepest⟩ := exists_deepest r.source scope f mem
      have answers : Answers r scope g := ⟨parted, admitted, f, mem, holds, deepest⟩
      by_cases found : ∃ t ∈ scope, t.value.holds r.target
      · obtain ⟨t, mem_t, holds_t⟩ := found
        by_cases allowed : g.Names t.value.path r ∨ g.Excuses r
        · exact ⟨_, .declared answers mem_t holds_t allowed⟩
        · exact ⟨_, .undeclared answers mem_t holds_t allowed⟩
      · have outside : ∀ t ∈ scope, ¬ t.value.holds r.target := by simpa using found
        by_cases allowed : g.LetsOut r ∨ g.Excuses r
        · exact ⟨_, .external answers outside allowed⟩
        · exact ⟨_, .barred answers outside allowed⟩
    · exact ⟨_, .ownerless parted admitted (by simpa using owned)⟩
  · simp only [Admitted, not_forall] at admitted
    obtain ⟨t, mem, holds, refused⟩ := admitted
    exact ⟨_, .hidden parted mem holds refused⟩

/-- The rule gives every import an answer. -/
theorem exists_ruling (r : Route) (forest : Scope) : ∃ v, Ruling r forest v := by
  induction forest using Tree.children_induction with
  | step forest ih =>
      by_cases parted : Parted r forest
      · exact exists_ruling_of_parted parted
      · -- A module that holds both ends has the answer from the scope inside it.
        simp only [Parted, not_forall, not_not] at parted
        obtain ⟨m, mem, source, target⟩ := parted
        by_cases leaf : m.children = []
        · exact ⟨none, .inLeaf mem source target leaf⟩
        · obtain ⟨answer, ruling⟩ := ih m mem
          exact ⟨answer, .inside mem source target leaf ruling⟩

/-! ## The judgement follows the rule

Where siblings are apart, `locate` finds the module that holds a path wherever it stands, so a module
that the rule speaks of is the one that the judgement asks. Inside a module that holds both ends the
two go down together. Where the ends part, the rule looks at the scope once, while the judgement comes
back to it for every module that holds the importing file, each time in another mixed scope.
-/

/-- An import inside a module of the scope is judged inside that module. -/
theorem judge_violation_of_common (formed : WellFormed scope) {m : CompiledModule}
    (mem : m ∈ scope) (source : m.value.holds r.source) (target : m.value.holds r.target) :
    (judge r scope).violation = (judge r m.children).violation := by
  obtain ⟨l, rfl, rfl⟩ := exists_located mem
  have found_source := locate_of_apart formed.apart_top source
  have found_target := locate_of_apart formed.apart_top target
  rw [judge_of_common found_source found_target rfl]
  rfl

/-- Where the ends part, they are located at different places. -/
theorem Parted.place_ne (parted : Parted r scope) {f t : Located}
    (source : locate r.source scope = some f) (target : locate r.target scope = some t) :
    t.place ≠ f.place := by
  intro same
  have scopes : t.scope = f.scope := (scope_of_locate target).trans (scope_of_locate source).symm
  have equal : t = f := Located.eq_of_place scopes same
  have holds_target : f.boundary.holds r.target := equal ▸ holds_of_locate target
  exact parted f.module (mem_of_locate source) (holds_of_locate source) holds_target

/-- What is let in is admitted by the module in which the destination is located. -/
theorem Admitted.admits (admitted : Admitted r scope) {t : Located}
    (target : locate r.target scope = some t) : t.boundary.admits r :=
  Boundary.admits_iff.mpr (admitted t.module (mem_of_locate target) (holds_of_locate target))

section Mixed

variable {l : Located}

/-- A module inside the source's module does not hold the destination where the ends part. -/
theorem Parted.not_holds_inside (parted : Parted r l.scope) (formed : WellFormed l.scope)
    (source : l.boundary.holds r.source) {inner : CompiledModule} (mem : inner ∈ l.inside) :
    ¬ inner.value.holds r.target := by
  intro holds
  have under : inner.value.IsUnder l.boundary := formed.isUnder l.mem_scope mem
  exact parted l.module l.mem_scope source (Boundary.holds_of_isUnder under holds)

/-- The ends are still apart in the scope inside the source's module and beside it. -/
theorem Parted.insideBeside (parted : Parted r l.scope) (formed : WellFormed l.scope)
    (source : l.boundary.holds r.source) : Parted r l.insideBeside := by
  intro m mem holds
  rcases Located.mem_insideBeside.mp mem with mem | mem
  · exact parted.not_holds_inside formed source mem
  · exact parted m (Located.mem_scope_of_mem_beside mem) holds

/-- The import is still let in where it leads. -/
theorem Admitted.insideBeside (admitted : Admitted r l.scope) (parted : Parted r l.scope)
    (formed : WellFormed l.scope) (source : l.boundary.holds r.source) :
    Admitted r l.insideBeside := by
  intro t mem holds
  rcases Located.mem_insideBeside.mp mem with mem | mem
  · exact absurd holds (parted.not_holds_inside formed source mem)
  · exact admitted t (Located.mem_scope_of_mem_beside mem) holds

/-- The destination is found in the same module as before. -/
theorem Parted.find_target_insideBeside (parted : Parted r l.scope) (formed : WellFormed l.scope)
    (source : l.boundary.holds r.source) :
    (locate r.target l.insideBeside).map Located.module =
      (locate r.target l.scope).map Located.module := by
  have not_here : ¬ l.module.value.holds r.target := parted l.module l.mem_scope source
  have not_inside : l.inside.find? (fun m => m.value.holds r.target) = none :=
    List.find?_eq_none.mpr fun m mem => parted.not_holds_inside formed source mem
  rw [map_module_locate, map_module_locate, Located.insideBeside, Located.scope, List.append_assoc,
    List.find?_append, List.find?_append, List.find?_append]
  rw [Located.inside] at not_inside
  rw [not_inside, List.find?_cons, Bool.eq_false_iff.mpr not_here]
  rfl

end Mixed

/-- The module that answers for an import judges it by its dependencies and externals, however deep
it lies. -/
theorem judge_violation_of_answers (formed : WellFormed scope) (answers : Answers r scope g) :
    (judge r scope).violation =
      g.outbound ((locate r.target scope).map Located.boundary) r := by
  obtain ⟨parted, admitted, m, mem, source, deepest⟩ := answers
  -- One step down the way to `g` is one step of the judgement into the mixed scope.
  induction deepest generalizing scope with
  | @here m none_inside =>
      obtain ⟨l, rfl, rfl⟩ := exists_located mem
      have found := locate_of_apart formed.apart_top source
      have unowned : locate r.source l.insideBeside = none := by
        refine locate_eq_none_iff.mpr fun m mem => ?_
        rcases Located.mem_insideBeside.mp mem with mem | mem
        · exact none_inside m mem
        · exact ((Located.apart_beside formed.apart_top).2 m mem).not_holds source
      rw [judge_of_admitted found fun t target =>
        ⟨parted.place_ne found target, admitted.admits target⟩]
      have silent : (judge r l.insideBeside).source.isSome = false := by
        rw [judge_source, unowned]
        rfl
      rw [silent, if_neg (by simp)]
      rfl
  | @inside m inner g mem_inner holds_inner deepest ih =>
      obtain ⟨l, rfl, rfl⟩ := exists_located mem
      have found := locate_of_apart formed.apart_top source
      have mem_mixed : inner ∈ l.insideBeside := Located.mem_insideBeside.mpr (Or.inl mem_inner)
      obtain ⟨owner, found_owner⟩ := exists_locate_of_holds mem_mixed holds_inner
      rw [judge_of_admitted found fun t target =>
        ⟨parted.place_ne found target, admitted.admits target⟩]
      have owned : (judge r l.insideBeside).source.isSome := by
        rw [judge_source, found_owner]
        rfl
      rw [owned, if_pos ⟨List.ne_nil_of_mem mem_inner, rfl⟩]
      have same := congrArg (Option.map Tree.value)
        (parted.find_target_insideBeside formed source)
      rw [Option.map_map, Option.map_map] at same
      exact (ih (Located.wellFormed_insideBeside formed) (parted.insideBeside formed source)
        (admitted.insideBeside parted formed source) mem_mixed holds_inner).trans
        (congrArg (fun target => g.outbound target r) same)

/-- In a well-formed forest the destination's module is found. -/
theorem locate_target_of_mem (formed : WellFormed scope) {t : CompiledModule} (mem : t ∈ scope)
    (holds : t.value.holds r.target) :
    ∃ l, locate r.target scope = some l ∧ l.boundary = t.value := by
  obtain ⟨l, rfl, rfl⟩ := exists_located mem
  exact ⟨l, locate_of_apart formed.apart_top holds, rfl⟩

/-- What the rule says of an import in a well-formed forest, the judgement says. -/
theorem judge_violation_of_ruling {v : Option Violation} (formed : WellFormed scope)
    (ruling : Ruling r scope v) : (judge r scope).violation = v := by
  -- Inside a module that holds both ends the rule and the judgement go down together; in the other
  -- cases the ends part, and `judge_violation_of_answers` has done the way down.
  induction ruling with
  | inLeaf mem source target leaf =>
      rw [judge_violation_of_common formed mem source target, leaf, judge_nil]
  | inside mem source target _ _ ih =>
      rw [judge_violation_of_common formed mem source target]
      exact ih (formed.inside mem)
  | @hidden scope t parted mem holds refused =>
      obtain ⟨l, found, boundary⟩ := locate_target_of_mem formed mem holds
      have refused : l.boundary.admits r = false := by
        rw [Bool.eq_false_iff, Ne, Boundary.admits_iff, boundary]
        exact refused
      cases owner : locate r.source scope with
      | none =>
          rw [judge_of_ownerless owner, found, ← boundary]
          show (if l.boundary.admits r then none else _) = _
          rw [refused]
          rfl
      | some f =>
          rw [judge_of_refused owner found (parted.place_ne owner found) refused, ← boundary]
          rfl
  | @ownerless scope parted admitted unowned =>
      rw [judge_of_ownerless (locate_eq_none_iff.mpr unowned)]
      cases found : locate r.target scope with
      | none => rfl
      | some t =>
          show (if t.boundary.admits r then none else _) = _
          rw [admitted.admits found]
          rfl
  | declared answers mem holds allowed =>
      obtain ⟨l, found, boundary⟩ := locate_target_of_mem formed mem holds
      rw [judge_violation_of_answers formed answers, found, Option.map_some, boundary]
      exact if_pos (Boundary.dependsOn_iff.mpr allowed)
  | undeclared answers mem holds refused =>
      obtain ⟨l, found, boundary⟩ := locate_target_of_mem formed mem holds
      rw [judge_violation_of_answers formed answers, found, Option.map_some, boundary]
      exact if_neg (mt Boundary.dependsOn_iff.mp refused)
  | external answers outside allowed =>
      rw [judge_violation_of_answers formed answers, locate_eq_none_iff.mpr outside]
      exact if_pos (Boundary.allowsExternal_iff.mpr allowed)
  | barred answers outside refused =>
      rw [judge_violation_of_answers formed answers, locate_eq_none_iff.mpr outside]
      exact if_neg (mt Boundary.allowsExternal_iff.mp refused)

/-- In a well-formed forest the judgement of an import is what the rule says, and nothing else. -/
theorem judge_violation_iff {v : Option Violation} (formed : WellFormed scope) :
    (judge r scope).violation = v ↔ Ruling r scope v := by
  constructor
  · rintro rfl
    obtain ⟨v, ruling⟩ := exists_ruling r scope
    rw [judge_violation_of_ruling formed ruling]
    exact ruling
  · exact judge_violation_of_ruling formed

/-- In a well-formed forest an edge, whether it was asked for its destination before or not, has the
violation that the rule says for its source and its destination, and no other. -/
theorem edge_violation_iff_ruling {forest : Scope} (formed : WellFormed forest) (e : Edge)
    {cell : Edge.Cell} (keeps : e.Keeps cell) (v : Option Violation) :
    ((e.judge forest).run cell).1.violation = v ↔ Ruling e.route forest v := by
  rw [(e.yields_judge forest).run_fst keeps]
  exact judge_violation_iff formed

/-- Two modules, and a third one nested in the first. The second one publishes all of its files. -/
def nestedAndShared : Scope :=
  [.node ⟨⟨"src/app"⟩, [], [⟨⟨"src/shared"⟩, []⟩], .all, [], none⟩
      [.node ⟨⟨"src/app/forms"⟩, [], [], .all, [], some "See the handbook."⟩ []],
    .node ⟨⟨"src/shared"⟩, [⟨"", .empty⟩], [], .all, [], none⟩ []]

/-- The nested module has to name the dependency itself; that the module around it does is not
enough. -/
theorem edge_violation_iff_ruling_nested :
    let e : Edge := ⟨"src/app/forms/x.ts", "../../shared/index", ⟨"."⟩⟩
    WellFormed nestedAndShared ∧ e.Keeps none ∧
      Ruling e.route nestedAndShared (some ⟨.notADependency, some ⟨"src/app/forms"⟩,
        some ⟨"src/shared"⟩, some "See the handbook."⟩) := by
  intro e
  have formed : WellFormed nestedAndShared := by decide
  refine ⟨formed, e.keeps_none, ?_⟩
  exact (edge_violation_iff_ruling formed e e.keeps_none _).mp (by decide +kernel)

end ImportBoundary
