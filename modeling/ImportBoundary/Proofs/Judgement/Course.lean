import ImportBoundary.Proofs.Judgement.Step
import ImportBoundary.Proofs.Module.Alike

/-!
# Two judgements that take the same course

What comes of an import in a scope is decided by the boundaries of the two located modules and by what
comes of the smaller scopes (`judge_violation_congr`). The places at which the modules stand do not
matter: whether one module holds both ends shows in the boundaries alone (`place_eq_iff`).

Proofs that compare the judgements of one import in two scopes do so by this lemma, without the
equations of a single judgement.
-/

namespace ImportBoundary

variable {r : Route} {s t : Scope}

/-- No module that holds a path stands before the one that is found. -/
theorem Located.place_le_of_locate {p : Path} {scope : Scope} {l k : Located}
    (found : locate p scope = some l) (same : k.scope = scope) (holds : k.boundary.holds p) :
    l.place ≤ k.place := by
  by_contra before
  have scopes : k.scope = l.scope := same.trans (scope_of_locate found).symm
  -- What stands before `l` is longer than what stands before `k`, so it holds the module of `k`.
  obtain ⟨more, before_l, behind⟩ | ⟨more, before_k, -⟩ := List.append_eq_append_iff.mp scopes
  · cases more with
    | nil =>
        rw [List.append_nil] at before_l
        exact before (Nat.le_of_eq (congrArg List.length before_l))
    | cons m rest =>
        obtain ⟨rfl, -⟩ := List.cons.inj behind
        have mem : k.module ∈ l.before := before_l ▸ List.mem_append_right _ List.mem_cons_self
        exact not_holds_before_of_locate found _ mem holds
  · apply before
    show l.before.length ≤ k.before.length
    rw [before_k, List.length_append]
    exact Nat.le_add_right _ _

/-- The ends are located in one module exactly if each of the two located modules holds the other end
as well. -/
theorem place_eq_iff {scope : Scope} {f t : Located} (source : locate r.source scope = some f)
    (target : locate r.target scope = some t) :
    t.place = f.place ↔ f.boundary.holds r.target ∧ t.boundary.holds r.source := by
  have scopes : t.scope = f.scope := (scope_of_locate target).trans (scope_of_locate source).symm
  constructor
  · intro same
    obtain rfl := Located.eq_of_place scopes same
    exact ⟨holds_of_locate target, holds_of_locate source⟩
  · rintro ⟨holds_target, holds_source⟩
    exact Nat.le_antisymm
      (Located.place_le_of_locate target (scope_of_locate source) holds_target)
      (Located.place_le_of_locate source (scope_of_locate target) holds_source)

/-- Two modules of the source from which the judgement goes on in the same way. -/
structure Located.SameCourse (r : Route) (f g : Located) : Prop where
  boundary : f.boundary = g.boundary
  leaf : f.inside = [] ↔ g.inside = []
  inside : (judge r f.inside).violation = (judge r g.inside).violation
  owned : (locate r.source f.insideBeside).isSome = (locate r.source g.insideBeside).isSome
  insideBeside : (judge r f.insideBeside).violation = (judge r g.insideBeside).violation

/-- The boundaries of the located modules and what comes of the smaller scopes decide what comes of a
scope. -/
theorem judge_violation_congr
    (source : Option.Rel (Located.SameCourse r) (locate r.source s) (locate r.source t))
    (target : (locate r.target s).map Located.boundary = (locate r.target t).map Located.boundary) :
    (judge r s).violation = (judge r t).violation := by
  rcases rel_iff.mp source with ⟨source, source'⟩ | ⟨f, g, source, source', course⟩
  · -- Only the destination's module is asked.
    rw [judge_of_ownerless source, judge_of_ownerless source']
    have asked (found : Option Located) : (found.bind fun t =>
        if t.boundary.admits r then none else some t.boundary.privateImplementation) =
        (found.map Located.boundary).bind fun b =>
          if b.admits r then none else some b.privateImplementation := by
      cases found <;> rfl
    rw [asked, asked, target]
  · cases found : locate r.target s with
    | none =>
        rw [found, Option.map_none, eq_comm, Option.map_eq_none_iff] at target
        rw [judge_violation_of_admitted source (by simp [found]),
          judge_violation_of_admitted source' (by simp [target]), found, target]
        simp only [ne_eq, course.leaf, course.owned, course.insideBeside, course.boundary]
    | some a =>
        rw [found, Option.map_some, eq_comm, Option.map_eq_some_iff] at target
        obtain ⟨b, found', boundary⟩ := target
        -- Places cannot be compared from scope to scope, but in either one the boundaries say whether
        -- they are the same.
        have places : a.place = f.place ↔ b.place = g.place := by
          rw [place_eq_iff source found, place_eq_iff source' found', course.boundary, boundary]
        by_cases same : a.place = f.place
        · rw [judge_of_common source found same, judge_of_common source' found' (places.mp same)]
          exact course.inside
        · have same' : b.place ≠ g.place := mt places.mpr same
          by_cases admitted : a.boundary.admits r
          · have admitted' : b.boundary.admits r := boundary ▸ admitted
            rw [judge_violation_of_admitted source (by simp [found, same, admitted]),
              judge_violation_of_admitted source' (by simp [found', same', admitted']),
              found, found', Option.map_some, Option.map_some, boundary]
            simp only [ne_eq, course.leaf, course.owned, course.insideBeside, course.boundary]
          · have refused : a.boundary.admits r = false := Bool.eq_false_iff.mpr admitted
            rw [judge_of_refused source found same refused,
              judge_of_refused source' found' same' (boundary ▸ refused), boundary]

end ImportBoundary
