import ImportBoundary.Proofs.Cache.Faithful
import ImportBoundary.Proofs.Layer.Messages
import ImportBoundary.Proofs.Module.Compilation

/-!
# When the checks ask for the destination

A check that asks for the destination of an edge leaves it in the cell of the edge. Of every
computation over the edge it is said here under which condition it does that (`Edge.Resolves`), and
the conditions of the steps add up. The check of the modules asks if there are modules, the check of
the layers if one of the rules applies to the importing file, and the check of the rejected texts
never asks (`Check.Asks`). So the cell shows which checks had something to look at, and what they find
does not depend on it (`Edge.resolved_by_checks`).
-/

namespace ImportBoundary

/-- A check asks for the destination of the edge, if it runs. -/
def Check.Asks (rules : CompiledRules) (e : Edge) : Check → Prop
  | modules => rules.scope ≠ []
  | layers => ∃ rule ∈ rules.layers, rule.applies e
  | bounded => False

/-- Compiled rules have modules exactly if the settings declare some. -/
theorem CompiledRules.scope_ne_nil_iff {compile : PatternCompiler} {s : Settings} {rules : CompiledRules}
    (compiled : CompiledRules.ofSettings compile s = .ok rules) :
    rules.scope ≠ [] ↔ s.modules.value ≠ [] := by
  unfold CompiledRules.ofSettings at compiled
  obtain ⟨scope, modules, compiled⟩ := bind_eq_ok_iff.mp compiled
  obtain ⟨layers, -, compiled⟩ := bind_eq_ok_iff.mp compiled
  cases compiled
  exact not_congr (compileModules_eq_ok_iff.mp modules).eq_nil_iff.symm

namespace Edge

variable {α β : Type} {e : Edge} {x : StateM Cell α} {f : α → StateM Cell β} {a : α} {p q : Prop}

/-- From every cell of the edge the computation leaves a filled cell exactly if the cell was filled
before or `p` holds. -/
def Resolves (e : Edge) (x : StateM Cell α) (p : Prop) : Prop :=
  ∀ cell, e.Keeps cell → ((x.run cell).2.isSome ↔ cell.isSome ∨ p)

theorem resolves_pure (e : Edge) (a : α) : e.Resolves (pure a) False := by
  intro cell _
  rw [or_false]
  rfl

theorem resolves_demand (e : Edge) : e.Resolves e.demand True := by
  intro cell _
  cases cell with
  | none => exact iff_of_true rfl (.inr trivial)
  | some d => exact iff_of_true rfl (.inr trivial)

theorem Resolves.of_iff (h : e.Resolves x p) (iff : p ↔ q) : e.Resolves x q := by
  rw [← iff]
  exact h

/-- Two steps resolve the destination if one of them does. -/
theorem Resolves.bind (first : e.Resolves x p) (yields : e.Yields x a) (second : e.Resolves (f a) q) :
    e.Resolves (x >>= f) (p ∨ q) := by
  intro cell keeps
  obtain ⟨value, after⟩ := yields cell keeps
  have next := second _ after
  rw [first cell keeps, or_assoc, ← value] at next
  exact next

/-- What is made of the outcome of a computation resolves nothing. -/
theorem Resolves.map (h : e.Resolves x p) (g : α → β) : e.Resolves (x >>= fun a => pure (g a)) p :=
  h

/-! ## Modules and layers

The judgement asks at once, since both ends are located at every level. A layer rule asks only if it
applies to the importing file, which is known without asking.
-/

/-- The judgement asks for the destination if there are modules to judge it. -/
theorem resolves_judge (e : Edge) (scope : Scope) : e.Resolves (e.judge scope) (scope ≠ []) := by
  unfold judge
  cases scope with
  | nil => exact (e.resolves_pure _).of_iff (by simp)
  | cons m rest => exact (e.resolves_demand.map _).of_iff (by simp)

theorem resolves_check (e : Edge) (rule : LayerRule) :
    e.Resolves (rule.check e) (rule.applies e) := by
  unfold LayerRule.check
  cases rule.applies e with
  | false => exact (e.resolves_pure _).of_iff (by simp)
  | true => exact (e.resolves_demand.map _).of_iff (by simp)

theorem resolves_layerAnswers (e : Edge) (rules : List LayerRule) :
    e.Resolves (layerAnswers e rules) (∃ rule ∈ rules, rule.applies e) := by
  induction rules with
  | nil => exact (e.resolves_pure _).of_iff (by simp)
  | cons rule rest ih =>
      refine Resolves.of_iff ((e.resolves_check rule).bind (e.yields_check rule) (ih.map _)) ?_
      simp

theorem resolves_layerMessages (e : Edge) (rules : List LayerRule) :
    e.Resolves (layerMessages rules e) (∃ rule ∈ rules, rule.applies e) :=
  (e.resolves_layerAnswers rules).map _

/-! ## The checks

The payload of a finding names the destination, so a check asks a second time when it has something to
say. It then has asked before, and the second time changes nothing.
-/

/-- A violation takes a module, so its payload asks for nothing new. -/
theorem resolves_moduleDrafts (e : Edge) (scope : Scope) :
    e.Resolves (moduleDrafts scope e) (scope ≠ []) := by
  have asks : e.Resolves (e.violationMessages scope) (scope ≠ []) := (e.resolves_judge scope).map _
  have messages := e.yields_violationMessages scope
  cases found : (ImportBoundary.judge e.route scope).violation with
  | none =>
      rw [found] at messages
      exact Resolves.of_iff (asks.bind messages (e.resolves_pure [])) (iff_of_eq (or_false _))
  | some v =>
      rw [found] at messages
      have inhabited : scope ≠ [] := by
        rintro rfl
        rw [judge_nil] at found
        cases found
      exact (asks.bind messages (e.resolves_demand.map _)).of_iff
        (iff_of_true (.inr trivial) inhabited)

/-- A message takes a rule that applies, so its payload asks for nothing new. -/
theorem resolves_layerDrafts (e : Edge) (rules : List LayerRule) :
    e.Resolves (layerDrafts rules e) (∃ rule ∈ rules, rule.applies e) := by
  have asks := e.resolves_layerMessages rules
  have messages := e.yields_messages rules
  cases found : e.messages rules with
  | nil =>
      rw [found] at messages
      exact Resolves.of_iff (asks.bind messages (e.resolves_pure [])) (iff_of_eq (or_false _))
  | cons message more =>
      rw [found] at messages
      obtain ⟨rule, mem, applies, -⟩ := mem_messages.mp (found ▸ List.mem_cons_self)
      exact (asks.bind messages (e.resolves_demand.map _)).of_iff
        (iff_of_true (.inr trivial) ⟨rule, mem, applies⟩)

theorem resolves_drafts (check : Check) (s : Settings) (rules : CompiledRules) (e : Edge) :
    e.Resolves (check.drafts s rules e) (check.Asks rules e) := by
  cases check with
  | modules => exact e.resolves_moduleDrafts rules.scope
  | layers => exact e.resolves_layerDrafts rules.layers
  | bounded => exact e.resolves_pure _

theorem resolves_findings (check : Check) (s : Settings) (rules : CompiledRules) (e : Edge)
    (record : ImportRecord) :
    e.Resolves (check.findings s rules e record)
      ((s.policy? check.name).isSome ∧ check.Asks rules e) := by
  unfold Check.findings
  cases s.policy? check.name with
  | none => exact (e.resolves_pure _).of_iff (by simp)
  | some policy => exact ((resolves_drafts check s rules e).map _).of_iff (by simp)

/-- Checks that share an edge resolve its destination if one of them runs and asks for it, in
whatever order they come. -/
theorem resolves_findingsOf (s : Settings) (rules : CompiledRules) (e : Edge) (record : ImportRecord)
    (checks : List Check) :
    e.Resolves (findingsOf s rules e record checks)
      (∃ check ∈ checks, (s.policy? check.name).isSome ∧ check.Asks rules e) := by
  induction checks with
  | nil => exact (e.resolves_pure _).of_iff (by simp)
  | cons check rest ih =>
      have first := resolves_findings check s rules e record
      refine Resolves.of_iff (first.bind (yields_findings check s rules e record) (ih.map _)) ?_
      simp

/-- The check of the rejected texts leaves the cell as it is. -/
theorem run_findings_bounded (s : Settings) (rules : CompiledRules) (e : Edge)
    (record : ImportRecord) (cell : Cell) :
    ((Check.bounded.findings s rules e record).run cell).2 = cell := by
  unfold Check.findings
  cases s.policy? Check.bounded.name with
  | none => rfl
  | some policy => rfl

/-- On a fresh edge the checks resolve the destination exactly if the check of the modules runs and
there are modules, which is a matter of the declared ones, or the check of the layers runs and one of
its rules applies to the importing file. The check of the rejected texts leaves the cell as it is.
The findings are the same as if the destination had been resolved before. -/
theorem resolved_by_checks (s : Settings) (rules : CompiledRules) (e : Edge)
    (record : ImportRecord) :
    let checks := findingsOf s rules e record Check.all
    ((checks.run none).2.isSome ↔
      ((s.policy? Check.modules.name).isSome ∧ rules.scope ≠ []) ∨
      ((s.policy? Check.layers.name).isSome ∧ ∃ rule ∈ rules.layers, rule.applies e)) ∧
    (∀ compile, CompiledRules.ofSettings compile s = .ok rules →
      (rules.scope ≠ [] ↔ s.modules.value ≠ [])) ∧
    (∀ cell, ((Check.bounded.findings s rules e record).run cell).2 = cell) ∧
    (checks.run none).1 = ((e.demand >>= fun _ => checks).run none).1 := by
  intro checks
  have yields := e.yields_findingsOf s rules record Check.all
  refine ⟨?_, fun compile => CompiledRules.scope_ne_nil_iff, run_findings_bounded s rules e record, ?_⟩
  · rw [resolves_findingsOf s rules e record Check.all none e.keeps_none]
    simp [Check.all, Check.Asks]
  · have resolved := e.yields_demand.bind (f := fun _ => checks) yields
    rw [yields.run_fst e.keeps_none, resolved.run_fst e.keeps_none]

end Edge

end ImportBoundary
