import ImportBoundary.Proofs.Evaluation.Findings
import ImportBoundary.Proofs.Module.Alike

/-!
# The checks do not get in each other's way

The checks share the edges of a graph, and their findings are arranged together and cut off together.
All the same, what one of them finds is decided by its own policy and its own rules
(`findingsOfCheck_congr`), and to pick its findings from a report that leaves nothing out is to arrange
what it finds alone (`ofCheck_evaluateWith`). So two reports of one graph agree on a check whenever the
settings agree on it, whatever else differs (`exists_reports_alike`).
-/

namespace ImportBoundary

variable {s s' : Settings} {rules rules' : CompiledRules} {root : Path} {g : ImportGraph}
  {check : Check} {compile : PatternCompiler}

/-! ## Settings that agree on a check

To agree is a matter of values. The rules may be different objects, and nothing is said about the other
checks, which may even fail to compile their rules under one of the two settings.
-/

namespace Check

theorem name_injective : Function.Injective name := by
  intro a b same
  revert same
  cases a <;> cases b <;> decide

/-- The settings have the same rules for the check, perhaps in different objects. -/
def SameRules (s s' : Settings) : Check → Prop
  | modules => s.modules.value = s'.modules.value
  | layers => s.layers.value = s'.layers.value
  | bounded => s.bounded = s'.bounded

/-- The settings agree on the check: it runs under both or under neither, its findings are as grave, and
its rules are the same. -/
structure SameIn (check : Check) (s s' : Settings) : Prop where
  policy : s.policy? check.name = s'.policy? check.name
  rules : check.SameRules s s'

end Check

/-- Settings that compile come to the rules of their modules and of their layers. -/
theorem CompiledRules.ofSettings_eq_ok_iff :
    ofSettings compile s = .ok rules ↔
      compileModules compile s.modules.value = .ok rules.scope ∧
        compileLayers compile s.layers.value = .ok rules.layers := by
  unfold ofSettings
  constructor
  · intro compiled
    obtain ⟨scope, modules, compiled⟩ := bind_eq_ok_iff.mp compiled
    obtain ⟨layers, kept, compiled⟩ := bind_eq_ok_iff.mp compiled
    cases compiled
    exact ⟨modules, kept⟩
  · rintro ⟨modules, layers⟩
    rw [modules, layers]
    rfl

/-- The same rules of a check lead to the same drafts, whatever the rules of the other checks are. -/
theorem drafts_congr (compiled : CompiledRules.ofSettings compile s = .ok rules)
    (compiled' : CompiledRules.ofSettings compile s' = .ok rules') (same : check.SameRules s s')
    (e : Edge) : check.drafts s rules e = check.drafts s' rules' e := by
  obtain ⟨modules, layers⟩ := CompiledRules.ofSettings_eq_ok_iff.mp compiled
  obtain ⟨modules', layers'⟩ := CompiledRules.ofSettings_eq_ok_iff.mp compiled'
  cases check with
  | modules =>
      have scopes : rules.scope = rules'.scope := by
        rw [show s.modules.value = s'.modules.value from same, modules'] at modules
        exact (Except.ok.inj modules).symm
      exact congrArg (moduleDrafts · e) scopes
  | layers =>
      have lists : rules.layers = rules'.layers := by
        rw [show s.layers.value = s'.layers.value from same, layers'] at layers
        exact (Except.ok.inj layers).symm
      exact congrArg (layerDrafts · e) lists
  | bounded => exact congrArg (fun texts => pure (boundedDrafts texts e)) same

/-- What a check finds about a record is decided by what the settings say about that check. -/
theorem findingsOfCheck_congr (compiled : CompiledRules.ofSettings compile s = .ok rules)
    (compiled' : CompiledRules.ofSettings compile s' = .ok rules') (same : check.SameIn s s')
    (record : ImportRecord) :
    record.findingsOfCheck s rules root check = record.findingsOfCheck s' rules' root check := by
  unfold ImportRecord.findingsOfCheck Check.findings
  rw [same.policy, drafts_congr compiled compiled' same.rules]

/-! ## The findings of one check in a report

A stable sort and a filter can change places (`Finding.filter_arrange`), and the filter for one check
drops whatever the other checks have found. A report that leaves something out is not that of the check
alone, because findings of other checks may take its room.
-/

/-- The findings of a report that a check made, in their order. -/
def Evaluation.ofCheck (r : Evaluation) (check : Check) : List Finding :=
  r.findings.filter fun f => f.check = check.name

theorem check_of_mem_findingsOfCheck {record : ImportRecord} {f : Finding}
    (mem : f ∈ record.findingsOfCheck s rules root check) : f.check = check.name := by
  obtain ⟨p, d, -, own, rfl⟩ := exists_draft_of_mem_findingsOfCheck mem
  exact congrArg Check.name own.check_eq

/-- Of what a check finds, all is under its own name and nothing under another one. -/
theorem filter_findingsOfCheck (record : ImportRecord) (other : Check) :
    (record.findingsOfCheck s rules root other).filter (fun f => f.check = check.name) =
      if other = check then record.findingsOfCheck s rules root other else [] := by
  split
  · next same =>
      refine List.filter_eq_self.mpr fun f mem => ?_
      rw [check_of_mem_findingsOfCheck mem, same]
      exact decide_eq_true rfl
  · next differs =>
      refine List.filter_eq_nil_iff.mpr fun f mem => ?_
      rw [check_of_mem_findingsOfCheck mem, decide_eq_true_eq]
      exact fun names => differs (Check.name_injective names)

/-- The findings under the name of a check are those of the check on each record. -/
theorem filter_findings :
    (g.findings s rules root).filter (fun f => f.check = check.name) =
      g.records.flatMap fun record => record.findingsOfCheck s rules root check := by
  unfold ImportGraph.findings
  rw [List.filter_flatMap]
  refine List.flatMap_congr fun record _ => ?_
  rw [findings_eq, List.filter_flatMap]
  simp only [filter_findingsOfCheck]
  cases check <;> simp [Check.all]

/-- To pick the findings of a check from a report that leaves nothing out is to arrange what the check
finds. -/
theorem ofCheck_evaluateWith (whole : (evaluateWith s rules root g).summary.truncatedReason = none) :
    (evaluateWith s rules root g).ofCheck check =
      Finding.arrange (g.records.flatMap fun record => record.findingsOfCheck s rules root check) := by
  rw [← filter_findings, ← Finding.filter_arrange]
  show ((Finding.arrange _).take _).filter _ = _
  rw [List.take_of_length_le (truncationNote_eq_none_iff.mp whole)]

/-- Every finding of a report is one of a check that runs. -/
theorem exists_policy_of_mem_findings {f : Finding} (mem : f ∈ (evaluateWith s rules root g).findings) :
    ∃ p, s.policy? f.check = some p := by
  have mem_all : f ∈ g.findings s rules root := Finding.mem_arrange.mp (List.mem_of_mem_take mem)
  obtain ⟨record, -, mem_record⟩ := List.mem_flatMap.mp mem_all
  rw [findings_eq] at mem_record
  obtain ⟨check, -, mem_alone⟩ := List.mem_flatMap.mp mem_record
  obtain ⟨p, d, policy, own, rfl⟩ := exists_draft_of_mem_findingsOfCheck mem_alone
  refine ⟨p, ?_⟩
  show s.policy? d.check.name = some p
  rw [own.check_eq, policy]

/-- Two settings that compile and agree on a check have reports of which those that leave nothing out
hold the same findings of that check in the same order. And no report holds a finding of a check that
does not run. -/
theorem exists_reports_alike (compiled : CompiledRules.ofSettings compile s = .ok rules)
    (compiled' : CompiledRules.ofSettings compile s' = .ok rules') (same : check.SameIn s s')
    (root : Path) :
    ∃ report report' : ImportGraph → Evaluation,
      (∀ g cache supply, cache.Serves compile s →
        ((evaluate compile g root s cache).run supply).1.1 = .ok (report g)) ∧
      (∀ g cache supply, cache.Serves compile s' →
        ((evaluate compile g root s' cache).run supply).1.1 = .ok (report' g)) ∧
      (∀ g, (report g).summary.truncatedReason = none → (report' g).summary.truncatedReason = none →
        (report g).ofCheck check = (report' g).ofCheck check) ∧
      ∀ name, s.policy? name = none → ∀ g, ∀ f ∈ (report g).findings, f.check ≠ name := by
  refine ⟨evaluateWith s rules root, evaluateWith s' rules' root, ?_, ?_, ?_, ?_⟩
  · intro g cache supply serves
    rw [run_evaluate_of_serves serves, compiled]
    rfl
  · intro g cache supply serves
    rw [run_evaluate_of_serves serves, compiled']
    rfl
  · intro g whole whole'
    -- Nothing has been left out, so what is reported of the check is what the check finds alone.
    rw [ofCheck_evaluateWith whole, ofCheck_evaluateWith whole']
    simp only [findingsOfCheck_congr compiled compiled' same]
  · rintro name disabled g f mem rfl
    obtain ⟨p, policy⟩ := exists_policy_of_mem_findings mem
    rw [disabled] at policy
    cases policy

/-- An evaluation leaves nothing out if there is room for all that the checks find. -/
theorem whole_of_evaluate {r : Evaluation} {n : Nat}
    (compiled : CompiledRules.ofSettings compile s = .ok rules)
    (run : ((evaluate compile g root s .empty).run 0).1.1 = .ok r)
    (length : (g.findings s rules root).length = n) (le : n ≤ s.maxFindings) :
    r.findings.length = n ∧ r.summary.truncatedReason = none := by
  rw [run_evaluate_of_serves (Cache.serves_empty compile s), compiled] at run
  cases run
  rw [← Finding.length_arrange] at length
  subst length
  exact ⟨congrArg List.length (List.take_of_length_le le), truncationNote_eq_none_iff.mpr le⟩

/-- Settings of a profile with one private module. -/
def privateSettings (profile : Profile) (layers : List LayerDeclaration) (bounded : List String) :
    Settings where
  profile := profile.name
  failOn := profile.failOn
  maxFindings := profile.maxFindings
  policies := profile.policies
  modules := ⟨0, [.node { path := "src/app" } []]⟩
  layers := ⟨0, layers⟩
  bounded

/-- An import of a private file between two other ones. -/
def crossingGraph : ImportGraph where
  records := [{ file := "src/z.ts", importText := "lodash/fp" },
    { file := "src/main.ts", importText := "./app/form" },
    { file := "src/a.ts", importText := "./main" }]

/-- Both settings run the check of modules with the same severity over the same module. Under the first
ones a text is rejected, under the second ones everything but that text. -/
theorem exists_reports_alike_crossing :
    let s := privateSettings .strict [] ["lodash"]
    let s' := privateSettings .compat [{ target := ["^lodash"], allowChildren := some false }] []
    Check.modules.SameIn s s' ∧
      ∃ r r', ((evaluate Pattern.compile crossingGraph ⟨"."⟩ s .empty).run 0).1.1 = .ok r ∧
        ((evaluate Pattern.compile crossingGraph ⟨"."⟩ s' .empty).run 0).1.1 = .ok r' ∧
        r.findings.length = 2 ∧ r'.findings.length = 3 ∧ r.ofCheck .modules = r'.ofCheck .modules := by
  intro s s'
  have same : Check.modules.SameIn s s' := ⟨by decide +kernel, rfl⟩
  have two : (CompiledRules.ofSettings Pattern.compile s).toOption.map
      (fun rules => (crossingGraph.findings s rules ⟨"."⟩).length) = some 2 := by decide +kernel
  have three : (CompiledRules.ofSettings Pattern.compile s').toOption.map
      (fun rules => (crossingGraph.findings s' rules ⟨"."⟩).length) = some 3 := by decide +kernel
  cases compiled : CompiledRules.ofSettings Pattern.compile s with
  | error e => simp [compiled, Except.toOption] at two
  | ok rules =>
  cases compiled' : CompiledRules.ofSettings Pattern.compile s' with
  | error e => simp [compiled', Except.toOption] at three
  | ok rules' =>
  obtain ⟨report, report', runs, runs', alike, -⟩ :=
    exists_reports_alike compiled compiled' same ⟨"."⟩
  have run := runs crossingGraph .empty 0 (Cache.serves_empty _ _)
  have run' := runs' crossingGraph .empty 0 (Cache.serves_empty _ _)
  rw [compiled] at two
  rw [compiled'] at three
  obtain ⟨length, whole⟩ := whole_of_evaluate compiled run (Option.some.inj two) (by decide)
  obtain ⟨length', whole'⟩ := whole_of_evaluate compiled' run' (Option.some.inj three) (by decide)
  exact ⟨same, _, _, run, run', length, length', alike _ whole whole'⟩

end ImportBoundary
