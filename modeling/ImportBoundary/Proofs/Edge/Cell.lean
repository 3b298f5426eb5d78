import ImportBoundary.Check.Finding
import ImportBoundary.Proofs.Judgement.Step

/-!
# The cell of an edge

An edge works its destination out on demand and keeps it in its cell. What a computation over the
edge comes to does not depend on whether the cell was filled before: from every cell of the edge it
yields the same value and leaves a cell of the edge (`Edge.Yields`). This holds of everything the
checks do, so checks that share an edge find what each of them finds on an edge of its own.

`Yields` is closed under the steps of a computation (`yields_pure`, `Yields.bind`), so a computation
that is made of demands yields what it would come to with the destination in place of each of them.
-/

namespace ImportBoundary.Edge

/-- A cell of the edge: it is empty or holds the edge's destination. -/
def Keeps (e : Edge) (cell : Cell) : Prop := ∀ d ∈ cell, d = e.destination

theorem keeps_none (e : Edge) : e.Keeps none := by
  simp [Keeps]

theorem keeps_some (e : Edge) : e.Keeps (some e.destination) := by
  simp [Keeps]

variable {α β : Type} {e : Edge} {x : StateM Cell α} {f : α → StateM Cell β} {a : α} {b : β}

/-- From every cell of the edge the computation comes to `a` and leaves a cell of the edge. -/
def Yields (e : Edge) (x : StateM Cell α) (a : α) : Prop :=
  ∀ cell, e.Keeps cell → (x.run cell).1 = a ∧ e.Keeps (x.run cell).2

theorem Yields.run_fst (h : e.Yields x a) {cell : Cell} (keeps : e.Keeps cell) :
    (x.run cell).1 = a :=
  (h cell keeps).1

/-- What a computation yields is what it comes to on a fresh edge. -/
theorem Yields.fresh (h : e.Yields x a) : e.Yields x (x.run none).1 := by
  rw [h.run_fst e.keeps_none]
  exact h

theorem yields_pure (e : Edge) (a : α) : e.Yields (pure a) a :=
  fun _ keeps => ⟨rfl, keeps⟩

theorem Yields.bind (hx : e.Yields x a) (hf : e.Yields (f a) b) : e.Yields (x >>= f) b := by
  intro cell keeps
  obtain ⟨value, after⟩ := hx cell keeps
  have next := hf _ after
  rw [← value] at next
  exact next

/-! ## What the checks yield

From the demand upwards: the judgement, the rules of the layers, the drafts of a check, its findings,
and the findings of several checks that share the edge.
-/

theorem yields_demand (e : Edge) : e.Yields e.demand e.destination := by
  intro cell keeps
  cases cell with
  | none => exact ⟨rfl, e.keeps_some⟩
  | some d => exact ⟨keeps d rfl, keeps⟩

/-- An edge is judged by its source and its destination. -/
theorem yields_judge (e : Edge) (scope : Scope) :
    e.Yields (e.judge scope) (ImportBoundary.judge e.route scope) := by
  unfold judge
  cases scope with
  | nil =>
      rw [judge_nil]
      exact yields_pure e _
  | cons m rest => exact e.yields_demand.bind (yields_pure e _)

theorem yields_violationMessages (e : Edge) (scope : Scope) :
    e.Yields (e.violationMessages scope)
      ((ImportBoundary.judge e.route scope).violation.map fun v => (v.kind, v.message e)) :=
  (e.yields_judge scope).bind (yields_pure e _)

/-- A rule that applies and does not allow the edge has a message. -/
theorem yields_check (e : Edge) (rule : LayerRule) :
    e.Yields (rule.check e)
      (if rule.applies e && !rule.allows e e.destination then some (rule.render e) else none) := by
  unfold LayerRule.check
  cases applies : rule.applies e with
  | false => exact yields_pure e _
  | true =>
      refine e.yields_demand.bind ?_
      cases rule.allows e e.destination <;> exact yields_pure e _

theorem yields_layerAnswers (e : Edge) (rules : List LayerRule) :
    e.Yields (layerAnswers e rules) (rules.map fun rule =>
      if rule.applies e && !rule.allows e e.destination then some (rule.render e) else none) := by
  induction rules with
  | nil => exact yields_pure e _
  | cons rule rest ih => exact (e.yields_check rule).bind (ih.bind (yields_pure e _))

/-- The messages of an edge are those of the rules that apply to it and do not allow it. -/
theorem yields_layerMessages (e : Edge) (rules : List LayerRule) :
    e.Yields (layerMessages rules e) (dropRepeats (rules.filterMap fun rule =>
      if rule.applies e && !rule.allows e e.destination then some (rule.render e) else none)) := by
  have answers := e.yields_layerAnswers rules
  have messages := answers.bind
    (f := fun answers => pure (dropRepeats (answers.filterMap id))) (yields_pure e _)
  rw [List.filterMap_map] at messages
  exact messages

/-- What a check has to say of an edge does not depend on the cell. -/
theorem exists_yields_drafts (check : Check) (s : Settings) (rules : CompiledRules) (e : Edge) :
    ∃ drafts, e.Yields (check.drafts s rules e) drafts := by
  cases check with
  | modules =>
      have messages := e.yields_violationMessages rules.scope
      cases found : (ImportBoundary.judge e.route rules.scope).violation with
      | none =>
          rw [found] at messages
          exact ⟨[], messages.bind (yields_pure e _)⟩
      | some v =>
          rw [found] at messages
          exact ⟨_, messages.bind (e.yields_demand.bind (yields_pure e _))⟩
  | layers =>
      have messages := e.yields_layerMessages rules.layers
      generalize dropRepeats _ = texts at messages
      cases texts with
      | nil => exact ⟨[], messages.bind (yields_pure e _)⟩
      | cons text more => exact ⟨_, messages.bind (e.yields_demand.bind (yields_pure e _))⟩
  | bounded => exact ⟨_, yields_pure e _⟩

/-- What a check finds about a record on its edge is what it finds on a fresh one. -/
theorem yields_findings (check : Check) (s : Settings) (rules : CompiledRules) (e : Edge)
    (record : ImportRecord) :
    e.Yields (check.findings s rules e record) ((check.findings s rules e record).run none).1 := by
  unfold Check.findings
  cases s.policy? check.name with
  | none => exact yields_pure e _
  | some policy =>
      obtain ⟨drafts, yields⟩ := exists_yields_drafts check s rules e
      have findings := yields.bind
        (f := fun drafts => pure (drafts.map fun d => d.finding policy e record)) (yields_pure e _)
      exact findings.fresh

/-- Checks that share an edge find what each of them finds on a fresh one. -/
theorem yields_findingsOf (s : Settings) (rules : CompiledRules) (e : Edge) (record : ImportRecord)
    (checks : List Check) :
    e.Yields (findingsOf s rules e record checks)
      (checks.flatMap fun check => ((check.findings s rules e record).run none).1) := by
  induction checks with
  | nil => exact yields_pure e _
  | cons check rest ih =>
      exact (yields_findings check s rules e record).bind (ih.bind (yields_pure e _))

end ImportBoundary.Edge
