import Mathlib.Data.Finset.Card
import ImportBoundary.Proofs.Evaluation.Reordering
import ImportBoundary.Proofs.Evaluation.Verdict
import ImportBoundary.Proofs.Layer.Compilation
import ImportBoundary.Proofs.NameMap

/-!
# The figures of an evaluation agree

An evaluation counts in several places: the findings before and behind the cut, those of each check, the
errors, and the edges, files and modules it is about. Each count is made on its own. A count by check
goes up by one with every finding (`getD_addTo`, `total_addTo`), so that the counts of all checks come
to the number of findings; what the other figures count is read off the lists they are made of. As long
as all numbers fit into 32 bits, the figures agree with each other, with the findings and with the
verdict (`Evaluation.Coherent`).
-/

namespace ImportBoundary

/-! ## Counts by check

The counts are made in one pass over the findings. The induction is on the findings, with any counts
that were made before, because the pass starts in the middle after each step.
-/

namespace FindingCounts

/-- One more finding raises the count of its check, and no other one. -/
theorem getD_addTo (counts : NameMap Nat) (f : Finding) (check : String) :
    ((addTo counts f).get? check).getD 0 =
      (counts.get? check).getD 0 + if f.check = check then 1 else 0 := by
  rw [addTo, NameMap.get?_insert]
  by_cases same : check = f.check
  · rw [if_pos same, if_pos same.symm, same]
    rfl
  · rw [if_neg same, if_neg (Ne.symm same), Nat.add_zero]

theorem total_addTo (counts : NameMap Nat) (f : Finding) :
    (addTo counts f).total = counts.total + 1 := by
  have inserted := counts.total_insert f.check ((counts.get? f.check).getD 0 + 1)
  rw [addTo]
  omega

/-- The count of a check is the number of its findings. -/
theorem ofCheck_ofFindings (findings : List Finding) (check : String) :
    (ofFindings findings).ofCheck check = findings.countP fun f => f.check = check := by
  -- The findings are added to counts that were made before.
  have fold (counts : NameMap Nat) : ((findings.foldl addTo counts).get? check).getD 0 =
      (counts.get? check).getD 0 + findings.countP fun f => f.check = check := by
    induction findings generalizing counts with
    | nil => rfl
    | cons f rest ih =>
        rw [List.foldl_cons, ih, getD_addTo]
        simp only [List.countP_cons, decide_eq_true_eq]
        omega
  exact (fold .empty).trans (Nat.zero_add _)

/-- The counts of all checks come to the number of findings. -/
theorem total_ofFindings (findings : List Finding) :
    (ofFindings findings).byCheck.total = findings.length := by
  have fold (counts : NameMap Nat) :
      (findings.foldl addTo counts).total = counts.total + findings.length := by
    induction findings generalizing counts with
    | nil => rfl
    | cons f rest ih =>
        rw [List.foldl_cons, ih, total_addTo, List.length_cons]
        omega
  exact (fold .empty).trans (Nat.zero_add _)

theorem errors_pos_iff (findings : List Finding) :
    0 < (ofFindings findings).errors ↔ ∃ f ∈ findings, f.severity = .error := by
  rw [ofFindings, List.countP_pos_iff]
  simp only [decide_eq_true_eq]

end FindingCounts

/-! ## The verdict

What the verdict says about the number of errors, from what findings amount to (`Verdict.Sums`).
-/

namespace Verdict

variable {failOn : FailOn} {findings : List Finding} {v : Verdict}

theorem Sums.eq_fail_of_error (sums : v.Sums failOn findings)
    (error : ∃ f ∈ findings, f.severity = .error) : v = .fail := by
  obtain ⟨f, mem, grave⟩ := error
  exact sums.unique (.error mem grave)

theorem Sums.eq_pass_iff (sums : v.Sums failOn findings) :
    v = .pass ↔ ∀ f ∈ findings, f.severity ≠ .error ∧ f.severity ≠ .warning := by
  constructor
  · rintro rfl
    cases sums with
    | clean no_error no_warning => exact fun f mem => ⟨no_error f mem, no_warning f mem⟩
  · intro harmless
    exact sums.unique (.clean (fun f mem => (harmless f mem).1) fun f mem => (harmless f mem).2)

/-- Where warnings do not fail, nothing but an error does. -/
theorem Sums.eq_fail_iff (sums : v.Sums failOn findings) (lenient : failOn = .error) :
    v = .fail ↔ ∃ f ∈ findings, f.severity = .error := by
  refine ⟨?_, sums.eq_fail_of_error⟩
  rintro rfl
  cases sums with
  | error mem grave => exact ⟨_, mem, grave⟩
  | warningFails _ _ _ fails => cases lenient.symm.trans fails

end Verdict

/-! ## Evaluations

A figure keeps the low 32 bits of a number, so the figures agree as far as the numbers fit. Of the
numbers only three have to be bounded; there are no more files than edges, and no more findings are
reported than made.
-/

/-- The figures of an evaluation agree with each other, with its findings and its verdict, and with what it
was made of: the settings, the graph, and all findings that the checks make. -/
structure Evaluation.Coherent (s : Settings) (g : ImportGraph) (all : Multiset Finding)
    (r : Evaluation) : Prop where
  total : r.summary.findingsTotal = all.card
  emitted : r.summary.findingsEmitted = r.findings.length
  capped : r.summary.findingsEmitted = min r.summary.findingsTotal s.maxFindings
  truncated : r.summary.truncatedReason.isSome ↔ s.maxFindings < r.summary.findingsTotal
  ofCheck (check : String) : r.counts.ofCheck check = r.findings.countP fun f => f.check = check
  byCheck : r.counts.byCheck.total = r.summary.findingsEmitted
  errors : r.counts.errors = r.findings.countP fun f => f.severity = .error
  fails : 0 < r.counts.errors → r.verdict = .fail
  passes : r.verdict = .pass ↔ ∀ f ∈ r.findings, f.severity ≠ .error ∧ f.severity ≠ .warning
  fails_iff : s.failOn = .error → (r.verdict = .fail ↔ 0 < r.counts.errors)
  edges : r.summary.edgesScanned = g.records.length
  files : r.summary.filesScanned = (g.records.map ImportRecord.file).toFinset.card
  modules : r.summary.modulesDeclared = (Tree.forestValues s.modules.value).length

variable {s : Settings} {rules : CompiledRules} {root : Path} {g : ImportGraph}

theorem figure_of_lt {n : Nat} (fits : n < UInt32.size) : Summary.figure n = n :=
  Nat.mod_eq_of_lt fits

theorem length_files (g : ImportGraph) :
    g.files.length = (g.records.map ImportRecord.file).toFinset.card := by
  rw [ImportGraph.files_eq, ← List.toFinset_eq_of_perm _ _ g.sortedFiles_perm, List.card_toFinset]

/-- As long as the numbers fit, the figures of an evaluation agree. -/
theorem coherent_evaluateWith
    (few_findings : (g.findingsAlone s rules root).card < UInt32.size)
    (few_edges : g.records.length < UInt32.size)
    (few_modules : (Tree.forestValues s.modules.value).length < UInt32.size) :
    (evaluateWith s rules root g).Coherent s g (g.findingsAlone s rules root) := by
  have reports : (evaluateWith s rules root g).Reports s.maxFindings (g.findingsAlone s rules root) :=
    reports_evaluateWith g
  have sums := Verdict.sums_ofFindings s.failOn (evaluateWith s rules root g).findings
  have length : (Finding.arrange (g.findings s rules root)).length =
      (g.findingsAlone s rules root).card := by
    rw [Finding.length_arrange, ← coe_findings, Multiset.coe_card]
  have total : (evaluateWith s rules root g).summary.findingsTotal =
      (g.findingsAlone s rules root).card := by
    show Summary.figure _ = _
    rw [length, figure_of_lt few_findings]
  have emitted : (evaluateWith s rules root g).summary.findingsEmitted =
      (evaluateWith s rules root g).findings.length := by
    refine figure_of_lt (lt_of_le_of_lt ?_ few_findings)
    exact reports.length.le.trans (Nat.min_le_left _ _)
  -- Files need no bound of their own, since every file has an edge.
  have few_files : (g.records.map ImportRecord.file).toFinset.card < UInt32.size := by
    refine lt_of_le_of_lt ?_ few_edges
    exact (List.toFinset_card_le _).trans_eq (List.length_map _)
  exact {
    total
    emitted
    capped := by rw [emitted, total, reports.length]
    truncated := by
      show (truncationNote _ _).isSome ↔ _
      rw [total, Option.isSome_iff_ne_none, Ne, truncationNote_eq_none_iff, length, Nat.not_le]
    ofCheck := FindingCounts.ofCheck_ofFindings _
    byCheck := (FindingCounts.total_ofFindings _).trans emitted.symm
    errors := rfl
    fails := fun some => sums.eq_fail_of_error ((FindingCounts.errors_pos_iff _).mp some)
    passes := sums.eq_pass_iff
    fails_iff := fun lenient =>
      (sums.eq_fail_iff lenient).trans (FindingCounts.errors_pos_iff _).symm
    edges := figure_of_lt few_edges
    files := by
      show Summary.figure _ = _
      rw [length_files, figure_of_lt few_files]
    modules := by
      show Summary.figure _ = _
      rw [countModules, ← Tree.length_forestValues, figure_of_lt few_modules] }

/-- For settings that compile, and as long as the numbers of findings, edges and modules fit into 32 bits,
an evaluation with any cache that serves the settings comes to a report whose figures agree. -/
theorem exists_coherent_report {compile : PatternCompiler}
    (compiled : CompiledRules.ofSettings compile s = .ok rules) (g : ImportGraph) (root : Path)
    (few_findings : (g.findingsAlone s rules root).card < UInt32.size)
    (few_edges : g.records.length < UInt32.size)
    (few_modules : (Tree.forestValues s.modules.value).length < UInt32.size) :
    ∃ r : Evaluation,
      (∀ cache supply, cache.Serves compile s →
        ((evaluate compile g root s cache).run supply).1.1 = .ok r) ∧
      r.Coherent s g (g.findingsAlone s rules root) := by
  refine ⟨evaluateWith s rules root g, ?_,
    coherent_evaluateWith few_findings few_edges few_modules⟩
  intro cache supply serves
  rw [run_evaluate_of_serves serves, compiled]
  rfl

/-- A private module with another one in it, and room for one finding. -/
def nestedSettings : Settings where
  profile := Profile.compat.name
  failOn := Profile.compat.failOn
  maxFindings := 1
  policies := Profile.compat.policies
  modules := ⟨0, [.node { path := "src/app" } [.node { path := "src/app/form" } []]]⟩
  layers := ⟨1, []⟩
  bounded := ["lodash"]

/-- One file has an import that is warned about and one that is an error, and the error is reported. -/
theorem exists_coherent_report_nested :
    let rules : CompiledRules := ⟨[.node ⟨⟨"src/app"⟩, [], [], .all, [], none⟩
      [.node ⟨⟨"src/app/form"⟩, [], [], .all, [], none⟩ []]], []⟩
    CompiledRules.ofSettings Pattern.compile nestedSettings = .ok rules ∧
      (mixedGraph.findingsAlone nestedSettings rules ⟨"."⟩).card < UInt32.size ∧
      mixedGraph.records.length < UInt32.size ∧
      (Tree.forestValues nestedSettings.modules.value).length < UInt32.size ∧
      ∃ r, ((evaluate Pattern.compile mixedGraph ⟨"."⟩ nestedSettings .empty).run 0).1.1 = .ok r ∧
        r.summary.findingsTotal = 2 ∧ r.summary.findingsEmitted = 1 ∧
        r.summary.truncatedReason.isSome ∧ r.counts.byCheck.total = 1 ∧
        r.summary.filesScanned = 1 ∧ r.summary.edgesScanned = 2 ∧ r.summary.modulesDeclared = 2 := by
  intro rules
  have compiled : CompiledRules.ofSettings Pattern.compile nestedSettings = .ok rules := rfl
  have two : (mixedGraph.findingsAlone nestedSettings rules ⟨"."⟩).card = 2 := by decide +kernel
  have few_findings : (mixedGraph.findingsAlone nestedSettings rules ⟨"."⟩).card < UInt32.size := by
    rw [two]
    decide
  have few_edges : mixedGraph.records.length < UInt32.size := by decide
  have few_modules : (Tree.forestValues nestedSettings.modules.value).length < UInt32.size := by
    decide
  refine ⟨compiled, few_findings, few_edges, few_modules, ?_⟩
  obtain ⟨r, runs, coherent⟩ :=
    exists_coherent_report compiled mixedGraph ⟨"."⟩ few_findings few_edges few_modules
  have total : r.summary.findingsTotal = 2 := coherent.total.trans two
  have emitted : r.summary.findingsEmitted = 1 := by
    rw [coherent.capped, total]
    rfl
  refine ⟨r, runs _ 0 (Cache.serves_empty _ _), total, emitted, ?_, ?_, ?_, ?_, ?_⟩
  · rw [coherent.truncated, total]
    decide
  · rw [coherent.byCheck, emitted]
  · rw [coherent.files]
    decide
  · exact coherent.edges
  · exact coherent.modules

end ImportBoundary
