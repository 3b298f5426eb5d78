import Mathlib.Logic.Basic
import ImportBoundary.Judgement
import ImportBoundary.Proofs.Module.Holder

/-!
# The steps of the judgement

What `judge` does in a scope depends only on the modules that hold the two ends. One equation for
each way in which it ends or goes on says all of it; proofs about the judgement use these equations
and do not open its definition.

The module that a judgement names as the source is always the one that `locate` finds in the scope
itself (`judge_source`), whatever happens further inside.
-/

namespace ImportBoundary

/-! ## What a module grants

The tests of a module run over lists of patterns. Here is what they test, as propositions. -/

namespace Boundary

/-- The interface of the module has a pattern that matches the destination. -/
def Publishes (b : Boundary) (r : Route) : Prop := ∃ p ∈ b.interface, p.accepts r.target.text

/-- The module has an exception that covers the two ends of the import. -/
def Excuses (b : Boundary) (r : Route) : Prop :=
  ∃ e ∈ b.exceptions, e.source.accepts r.source.text ∧ e.target.accepts r.target.text

/-- The module has a dependency on the module at `path`, which covers the destination if it is
restricted to some files. -/
def Names (b : Boundary) (path : Path) (r : Route) : Prop :=
  ∃ d ∈ b.dependencies, d.path = path ∧ (d.only = [] ∨ ∃ p ∈ d.only, p.accepts r.target.text)

/-- The destination matches the list of allowed externals, if the module has one. -/
def LetsOut (b : Boundary) (r : Route) : Prop :=
  ∀ patterns, b.externals = .only patterns → ∃ p ∈ patterns, p.accepts r.target.text

variable {b : Boundary} {r : Route}

theorem excepts_iff : b.excepts r ↔ b.Excuses r := by
  simp [excepts, Excuses, BoundaryException.covers]

theorem admits_iff : b.admits r ↔ b.Publishes r ∨ b.Excuses r := by
  simp [admits, excepts_iff, Publishes, Pattern.anyAccepts]

theorem dependsOn_iff {path : Path} : b.dependsOn path r ↔ b.Names path r ∨ b.Excuses r := by
  simp [dependsOn, excepts_iff, Names, Dependency.covers, Pattern.anyAccepts]

theorem allowsExternal_iff : b.allowsExternal r ↔ b.LetsOut r ∨ b.Excuses r := by
  rw [allowsExternal, Bool.or_eq_true, excepts_iff]
  cases h : b.externals with
  | all => simp [LetsOut, Externals.allows, h]
  | only patterns => simp [LetsOut, Externals.allows, Pattern.anyAccepts, h]

end Boundary

/-! ## Equations

There are four equations, for a file that no module holds, for two ends in one module, for an import
that is refused and for one that is let in. Each is stated with what `locate` finds for the two ends,
so that a proof decides that first and then rewrites.
-/

variable {r : Route} {scope : Scope} {f t : Located}

/-- If no module holds the importing file, only the destination's module is asked. -/
theorem judge_of_ownerless (source : locate r.source scope = none) :
    judge r scope = ⟨(locate r.target scope).bind fun t =>
      if t.boundary.admits r then none else some t.boundary.privateImplementation, none⟩ := by
  rw [judge]
  split
  · next _ target => rw [target]; rfl
  · next _ target => rw [target]; rfl
  · next found => rw [source] at found; cases found

/-- If one module holds both ends, the import is judged inside it. -/
theorem judge_of_common (source : locate r.source scope = some f)
    (target : locate r.target scope = some t) (same : t.place = f.place) :
    judge r scope = ⟨(judge r f.inside).violation, some f.module⟩ := by
  rw [judge]
  split
  · next found _ => rw [source] at found; cases found
  · next found _ => rw [source] at found; cases found
  · next f' found =>
      rw [source] at found
      cases found
      rw [target, if_pos (by simp [same])]

/-- A module that does not let the import in ends the judgement. -/
theorem judge_of_refused (source : locate r.source scope = some f)
    (target : locate r.target scope = some t) (apart : t.place ≠ f.place)
    (refused : t.boundary.admits r = false) :
    judge r scope = ⟨some t.boundary.privateImplementation, some f.module⟩ := by
  rw [judge]
  split
  · next found _ => rw [source] at found; cases found
  · next found _ => rw [source] at found; cases found
  · next f' found =>
      rw [source] at found
      cases found
      rw [target, if_neg (by simpa using apart), if_pos (by simp [refused])]
      rfl

/-- If the destination's module lets the import in, or there is no such module, the importing file's
module is asked: a module inside it decides if there is one that holds the file. -/
theorem judge_of_admitted (source : locate r.source scope = some f)
    (target : ∀ t, locate r.target scope = some t → t.place ≠ f.place ∧ t.boundary.admits r) :
    judge r scope =
      ⟨if f.inside ≠ [] ∧ (judge r f.insideBeside).source.isSome
        then (judge r f.insideBeside).violation
        else f.boundary.outbound ((locate r.target scope).map Located.boundary) r,
      some f.module⟩ := by
  rw [judge]
  split
  · next found _ => rw [source] at found; cases found
  · next found _ => rw [source] at found; cases found
  · next f' found =>
      rw [source] at found
      cases found
      have apart : (locate r.target scope).map Located.place ≠ some f.place := by
        intro same
        obtain ⟨t, found, place⟩ := Option.map_eq_some_iff.mp same
        exact (target t found).1 place
      have admitted : ((locate r.target scope).any fun t => !t.boundary.admits r) = false := by
        cases found : locate r.target scope with
        | none => rfl
        | some t => simp [(target t found).2]
      rw [if_neg apart, admitted, if_neg Bool.false_ne_true]
      cases inside : f.inside with
      | nil => simp
      | cons m rest =>
          by_cases owned : (judge r f.insideBeside).source.isSome
          · simp [owned]
          · simp [owned]

/-- A judgement names the module of the scope that holds the importing file. -/
theorem judge_source (r : Route) (scope : Scope) :
    (judge r scope).source = (locate r.source scope).map Located.module := by
  rw [judge]
  split
  · next found _ => rw [found]; rfl
  · next found _ => rw [found]; rfl
  · next f found =>
      rw [found]
      split
      · rfl
      · split
        · rfl
        · dsimp only
          split <;> rfl

/-- The same as an equation for the violation: a module inside the importing file's module decides if
`locate` finds one there. -/
theorem judge_violation_of_admitted (source : locate r.source scope = some f)
    (target : ∀ t, locate r.target scope = some t → t.place ≠ f.place ∧ t.boundary.admits r) :
    (judge r scope).violation =
      if f.inside ≠ [] ∧ (locate r.source f.insideBeside).isSome
        then (judge r f.insideBeside).violation
        else f.boundary.outbound ((locate r.target scope).map Located.boundary) r := by
  rw [judge_of_admitted source target, judge_source, Option.isSome_map]

/-- An empty scope allows every import. -/
theorem judge_nil (r : Route) : judge r [] = ⟨none, none⟩ :=
  judge_of_ownerless rfl

/-! ## Imports without a violation

The same equations, read for imports that are allowed: here nothing is said of which module objects,
and a test that has to pass stands in a conjunction.
-/

/-- Without a module that holds the importing file, an import is allowed if it is let in. -/
theorem judge_violation_eq_none_iff_of_ownerless (source : locate r.source scope = none) :
    (judge r scope).violation = none ↔
      ∀ t, locate r.target scope = some t → t.boundary.admits r := by
  rw [judge_of_ownerless source]
  cases locate r.target scope with
  | none => simp
  | some t => cases admitted : t.boundary.admits r <;> simp [admitted]

/-- Where the ends are located in different modules, an import is allowed if it is let in and the
module that answers for the importing file has nothing to say against it. -/
theorem judge_violation_eq_none_iff_of_apart (source : locate r.source scope = some f)
    (apart : ∀ t, locate r.target scope = some t → t.place ≠ f.place) :
    (judge r scope).violation = none ↔
      (∀ t, locate r.target scope = some t → t.boundary.admits r) ∧
      if f.inside ≠ [] ∧ (locate r.source f.insideBeside).isSome
        then (judge r f.insideBeside).violation = none
        else f.boundary.outbound ((locate r.target scope).map Located.boundary) r = none := by
  by_cases admitted : ∀ t, locate r.target scope = some t → t.boundary.admits r
  · rw [judge_violation_of_admitted source fun t target => ⟨apart t target, admitted t target⟩,
      and_iff_right admitted]
    split <;> rfl
  · simp only [not_forall] at admitted
    obtain ⟨t, target, refused⟩ := admitted
    rw [judge_of_refused source target (apart t target) (by simpa using refused)]
    simp only [reduceCtorEq, false_iff]
    exact fun allowed => refused (allowed.1 t target)

/-! ## One step

`Finds` turns the equations around: given a violation, it says what the last step was. It says all that
the step has tested, so a proof about violations has one case for each of its constructors, and by
`scope_induction` it may assume what it shows for the two scopes into which a step leads.
-/

/-- The step of the judgement that comes to a violation: it ends with it, or takes it over from a
smaller scope. -/
inductive Finds (r : Route) (scope : Scope) (v : Violation) : Prop
  /-- The destination's module does not let the import in. -/
  | refused {t : Located} : locate r.target scope = some t →
      (∀ f, locate r.source scope = some f → t.place ≠ f.place) → t.boundary.admits r = false →
      v = t.boundary.privateImplementation → Finds r scope v
  /-- One module holds both ends, and the violation is found inside it. -/
  | common {f t : Located} : locate r.source scope = some f → locate r.target scope = some t →
      t.place = f.place → (judge r f.inside).violation = some v → Finds r scope v
  /-- The violation is found in the scope inside the importing file's module and beside it. -/
  | nested {f : Located} : locate r.source scope = some f →
      (∀ t, locate r.target scope = some t → t.place ≠ f.place ∧ t.boundary.admits r) →
      f.inside ≠ [] → (locate r.source f.insideBeside).isSome →
      (judge r f.insideBeside).violation = some v → Finds r scope v
  /-- The importing file's module does not allow the import. -/
  | own {f : Located} : locate r.source scope = some f →
      (∀ t, locate r.target scope = some t → t.place ≠ f.place ∧ t.boundary.admits r) →
      (f.inside ≠ [] → locate r.source f.insideBeside = none) →
      f.boundary.outbound ((locate r.target scope).map Located.boundary) r = some v →
      Finds r scope v

/-- Every violation is found in one of these steps. -/
theorem finds_of_judge {v : Violation} (h : (judge r scope).violation = some v) :
    Finds r scope v := by
  -- The equations ask in the order in which the judgement does: for the file, for the destination that
  -- is refused, for one module around both, and for a module inside.
  cases source : locate r.source scope with
  | none =>
      rw [judge_of_ownerless source] at h
      obtain ⟨t, target, h⟩ := Option.bind_eq_some_iff.mp h
      by_cases admitted : t.boundary.admits r
      · rw [if_pos admitted] at h
        cases h
      · rw [if_neg admitted] at h
        cases h
        exact .refused target (by simp [source]) (by simpa using admitted) rfl
  | some f =>
      by_cases refused : ∃ t, locate r.target scope = some t ∧ t.place ≠ f.place ∧
          t.boundary.admits r = false
      · obtain ⟨t, target, apart, refused⟩ := refused
        rw [judge_of_refused source target apart refused] at h
        cases h
        exact .refused target (by simpa [source] using apart) refused rfl
      · by_cases same : ∃ t, locate r.target scope = some t ∧ t.place = f.place
        · obtain ⟨t, target, same⟩ := same
          rw [judge_of_common source target same] at h
          exact .common source target same h
        · have admitted : ∀ t, locate r.target scope = some t →
              t.place ≠ f.place ∧ t.boundary.admits r := by
            intro t target
            have apart : t.place ≠ f.place := fun equal => same ⟨t, target, equal⟩
            exact ⟨apart, by simpa using fun no => refused ⟨t, target, apart, no⟩⟩
          rw [judge_violation_of_admitted source admitted] at h
          by_cases owned : f.inside ≠ [] ∧ (locate r.source f.insideBeside).isSome
          · rw [if_pos owned] at h
            exact .nested source admitted owned.1 owned.2 h
          · rw [if_neg owned] at h
            refine .own source admitted (fun inside => ?_) h
            simpa [inside] using owned

/-- The judgement comes to a violation exactly by one of these steps. -/
theorem judge_violation_eq_some_iff {v : Violation} :
    (judge r scope).violation = some v ↔ Finds r scope v := by
  refine ⟨finds_of_judge, fun finds => ?_⟩
  cases finds with
  | @refused t target apart refused found =>
      cases source : locate r.source scope with
      | none =>
          rw [judge_of_ownerless source, target]
          show (if t.boundary.admits r then none else _) = _
          rw [refused, found]
          rfl
      | some f => rw [judge_of_refused source target (apart f source) refused, found]
  | common source target same found => rw [judge_of_common source target same, found]
  | nested source admitted inside owned found =>
      rw [judge_violation_of_admitted source admitted]
      exact (if_pos ⟨inside, owned⟩).trans found
  | own source admitted unowned found =>
      rw [judge_violation_of_admitted source admitted]
      refine (if_neg ?_).trans found
      rintro ⟨inside, owned⟩
      rw [unowned inside] at owned
      cases owned

/-- What holds of a scope whenever it holds of the scopes into which the judgement may go on from
there holds of every scope. -/
theorem scope_induction (p : Path) {motive : Scope → Prop}
    (step : ∀ scope,
      (∀ l, locate p scope = some l → motive l.inside ∧ motive l.insideBeside) → motive scope)
    (scope : Scope) : motive scope := by
  induction size : Tree.forestSize scope using Nat.strongRecOn generalizing scope with
  | ind n ih =>
      subst size
      refine step scope fun l found => ?_
      have inside := l.forestSize_inside_lt
      have insideBeside := l.forestSize_insideBeside_lt
      rw [scope_of_locate found] at inside insideBeside
      exact ⟨ih _ inside _ rfl, ih _ insideBeside _ rfl⟩

end ImportBoundary
