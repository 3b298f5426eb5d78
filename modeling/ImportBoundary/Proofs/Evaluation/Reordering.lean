import Mathlib.Data.List.Destutter
import ImportBoundary.Proofs.Evaluation.Findings

/-!
# The order of a graph's records does not matter

A host may list the imports of a project in any order. The checks find the same findings then, in
another order, and arranging puts equal sort keys in the same places (`map_sortKey_arrange`). Findings
with one key may change places, and one of them may be cut off in the place of another. But the
verdict and the counts are made of sort keys only, and the figures of lengths, so an evaluation
differs at most in which of the findings with one key it reports (`exists_report_of_perm`).
-/

namespace ImportBoundary

variable {s : Settings} {rules : CompiledRules} {root : Path} {g g' : ImportGraph}
  {a b : List Finding}

/-! ## The importing files

The files are put in order before repetitions are dropped, so only neighbours have to be compared, and
the order of the records is forgotten on the way.
-/

theorem eraseReps_eq_destutter {α : Type} [DecidableEq α] (l : List α) :
    l.eraseReps = l.destutter (· ≠ ·) := by
  cases l with
  | nil => rfl
  | cons a rest =>
    -- The loop has some elements behind it, the last of which is first in what it has collected.
    have loop (done : List α) : List.eraseRepsBy.loop (· == ·) a rest done =
        done.reverse ++ rest.destutter' (· ≠ ·) a := by
      induction rest generalizing a done with
      | nil => simp [List.eraseRepsBy.loop]
      | cons b rest ih =>
        rw [List.eraseRepsBy.loop]
        by_cases same : a = b
        · subst same
          simp [ih]
        · simp [ih, beq_eq_false_iff_ne.mpr same, same]
    exact loop []

namespace ImportGraph

/-- The importing files, in order and with repetitions. -/
def sortedFiles (g : ImportGraph) : List String :=
  (g.records.map ImportRecord.file).mergeSort fun a b => (Text.order a b).isLE

theorem sortedFiles_perm (g : ImportGraph) :
    g.sortedFiles.Perm (g.records.map ImportRecord.file) :=
  List.mergeSort_perm _ _

theorem pairwise_sortedFiles (g : ImportGraph) : g.sortedFiles.Pairwise (· ≤ ·) := by
  have sorted : g.sortedFiles.Pairwise fun a b => (Text.order a b).isLE := by
    refine List.pairwise_mergeSort (fun a b c => ?_) (fun a b => ?_) _
    · simp only [Text.isLE_order]
      exact le_trans
    · rw [Bool.or_eq_true]
      exact (le_total a b).imp (Text.isLE_order a b).mpr (Text.isLE_order b a).mpr
  exact sorted.imp fun {a b} h => (Text.isLE_order a b).mp h

/-- In order, to drop what repeats its neighbour is to drop all repetitions. -/
theorem files_eq (g : ImportGraph) : g.files = g.sortedFiles.dedup :=
  (eraseReps_eq_destutter _).trans g.pairwise_sortedFiles.destutter_eq_dedup

theorem files_eq_of_perm (perm : g.records.Perm g'.records) : g.files = g'.files := by
  have same : g.sortedFiles = g'.sortedFiles := by
    refine List.Perm.eq_of_pairwise (fun _ _ _ _ => le_antisymm) g.pairwise_sortedFiles
      g'.pairwise_sortedFiles ?_
    exact g.sortedFiles_perm.trans ((perm.map _).trans g'.sortedFiles_perm.symm)
  rw [files_eq, files_eq, same]

end ImportGraph

/-! ## What is made of sort keys

Arranged findings have their keys in order, and keys that are in a linear order stand in one way only.
So the keys of the arranged findings are known although the findings themselves are not.
-/

namespace Finding

theorem SortKey.toRank_injective : Function.Injective SortKey.toRank := by
  intro a b same
  have severity_injective : Function.Injective Severity.rank := by
    intro x y ranks
    revert ranks
    cases x <;> cases y <;> decide
  obtain ⟨severity, path, line, check, code, message⟩ := a
  obtain ⟨severity', path', line', check', code', message'⟩ := b
  simp only [toRank, toLex_inj, Prod.mk.injEq] at same
  obtain ⟨ranks, rfl, rfl, rfl, rfl, rfl⟩ := same
  rw [severity_injective ranks]

/-- Findings that are arranged in another order have the same sort keys in the same places. -/
theorem map_sortKey_arrange (perm : a.Perm b) :
    (arrange a).map sortKey = (arrange b).map sortKey := by
  have ordered (findings : List Finding) :
      ((arrange findings).map rank).Pairwise (· ≤ ·) :=
    List.pairwise_map.mpr (pairwise_arrange findings)
  have perm_ranks : ((arrange a).map rank).Perm ((arrange b).map rank) :=
    ((arrange_perm a).trans (perm.trans (arrange_perm b).symm)).map rank
  have ranks : (arrange a).map rank = (arrange b).map rank :=
    perm_ranks.eq_of_pairwise (fun _ _ _ _ => le_antisymm) (ordered a) (ordered b)
  apply List.map_injective_iff.mpr SortKey.toRank_injective
  rw [List.map_map, List.map_map]
  exact ranks

/-- Where a sort key belongs to one finding only, findings are arranged in one way only. -/
theorem arrange_eq_of_perm (perm : a.Perm b)
    (unique : ∀ f ∈ a, ∀ f' ∈ a, f.sortKey = f'.sortKey → f = f') : arrange a = arrange b := by
  apply List.Perm.eq_of_pairwise _ (pairwise_arrange a) (pairwise_arrange b)
  · exact (arrange_perm a).trans (perm.trans (arrange_perm b).symm)
  · intro f f' mem mem' le le'
    have same : f.rank = f'.rank := le_antisymm le le'
    exact unique f (mem_arrange.mp mem) f' (perm.mem_iff.mpr (mem_arrange.mp mem'))
      (SortKey.toRank_injective same)

end Finding

theorem Verdict.ofFindings_congr (keys : a.map Finding.sortKey = b.map Finding.sortKey)
    (failOn : FailOn) : ofFindings a failOn = ofFindings b failOn := by
  have grave (severity : Severity) (findings : List Finding) :
      (findings.any fun f => f.severity = severity) =
        (findings.map Finding.sortKey).any fun k => k.severity = severity := by
    rw [List.any_map]
    rfl
  unfold ofFindings
  rw [grave, grave, keys, ← grave, ← grave]

theorem FindingCounts.ofFindings_congr (keys : a.map Finding.sortKey = b.map Finding.sortKey) :
    ofFindings a = ofFindings b := by
  have by_key (findings : List Finding) : ofFindings findings =
      { byCheck := (findings.map Finding.sortKey).foldl
          (fun counts k => counts.insert k.check ((counts.get? k.check).getD 0 + 1)) .empty
        errors := (findings.map Finding.sortKey).countP fun k => k.severity = .error } := by
    rw [List.foldl_map, List.countP_map]
    rfl
  rw [by_key, by_key, keys]

/-! ## Evaluations

Reordering the records reorders the findings, and leaves every length as it is.
-/

theorem findings_perm (perm : g.records.Perm g'.records) :
    (g.findings s rules root).Perm (g'.findings s rules root) :=
  perm.flatMap_right _

theorem summary_eq_of_perm (perm : g.records.Perm g'.records) :
    (evaluateWith s rules root g).summary = (evaluateWith s rules root g').summary := by
  have files : g.files = g'.files := ImportGraph.files_eq_of_perm perm
  have total : (Finding.arrange (g.findings s rules root)).length =
      (Finding.arrange (g'.findings s rules root)).length := by
    rw [Finding.length_arrange, Finding.length_arrange, (findings_perm perm).length_eq]
  unfold evaluateWith
  simp only [files, perm.length_eq, total, List.length_take]

/-- For settings that compile, evaluations of graphs with the same records in any order come to the
same verdict, figures and counts, and report findings with the same sort keys. They report the same
findings if no two findings share a sort key. -/
theorem exists_report_of_perm {compile : PatternCompiler}
    (compiled : CompiledRules.ofSettings compile s = .ok rules) (root : Path) :
    ∃ report : ImportGraph → Evaluation,
      (∀ g cache supply, cache.Serves compile s →
        ((evaluate compile g root s cache).run supply).1.1 = .ok (report g)) ∧
      ∀ g g' : ImportGraph, g.records.Perm g'.records →
        (report g).verdict = (report g').verdict ∧ (report g).summary = (report g').summary ∧
        (report g).counts = (report g').counts ∧
        (report g).findings.map Finding.sortKey = (report g').findings.map Finding.sortKey ∧
        ((∀ f ∈ g.findingsAlone s rules root, ∀ f' ∈ g.findingsAlone s rules root,
          f.sortKey = f'.sortKey → f = f') → (report g).findings = (report g').findings) := by
  refine ⟨evaluateWith s rules root, ?_, ?_⟩
  · intro g cache supply serves
    rw [run_evaluate_of_serves serves, compiled]
    rfl
  · intro g g' perm
    -- The verdict and the counts are functions of the sort keys, which arranging makes the same in
    -- both.
    have keys : (evaluateWith s rules root g).findings.map Finding.sortKey =
        (evaluateWith s rules root g').findings.map Finding.sortKey := by
      show ((Finding.arrange _).take _).map _ = ((Finding.arrange _).take _).map _
      rw [List.map_take, List.map_take, Finding.map_sortKey_arrange (findings_perm perm)]
    refine ⟨Verdict.ofFindings_congr keys s.failOn, summary_eq_of_perm perm,
      FindingCounts.ofFindings_congr keys, keys, ?_⟩
    intro unique
    simp only [← coe_findings, Multiset.mem_coe] at unique
    show (Finding.arrange _).take _ = (Finding.arrange _).take _
    rw [Finding.arrange_eq_of_perm (findings_perm perm) unique]

/-- Two errors on one line, and a third one in another file. -/
def shuffledGraph : ImportGraph where
  records := [{ file := "src/main.ts", importText := "lodash/fp", line := some 1 },
    { file := "src/form.ts", importText := "../lib" },
    { file := "src/main.ts", importText := "../../lodash", line := some 1 }]

/-- Only one of the errors is reported, and the order of the records does not decide which one. -/
theorem exists_report_of_perm_shuffled :
    CompiledRules.ofSettings Pattern.compile crowdedSettings = .ok ⟨[], []⟩ ∧
      ∃ r r', ((evaluate Pattern.compile shuffledGraph ⟨"."⟩ crowdedSettings .empty).run 0).1.1 =
          .ok r ∧
        ((evaluate Pattern.compile { records := shuffledGraph.records.reverse } ⟨"."⟩ crowdedSettings
          .empty).run 0).1.1 = .ok r' ∧
        r.summary = r'.summary ∧ r.counts = r'.counts ∧ r.findings = r'.findings := by
  have compiled : CompiledRules.ofSettings Pattern.compile crowdedSettings = .ok ⟨[], []⟩ := rfl
  obtain ⟨report, runs, alike⟩ := exists_report_of_perm compiled ⟨"."⟩
  have perm := (List.reverse_perm shuffledGraph.records).symm
  obtain ⟨-, summary, counts, -, findings⟩ := alike shuffledGraph { records := _ } perm
  have distinct : ((shuffledGraph.findings crowdedSettings ⟨[], []⟩ ⟨"."⟩).map
      Finding.sortKey).Nodup := by
    decide +kernel
  refine ⟨compiled, report shuffledGraph, report { records := shuffledGraph.records.reverse },
    runs _ _ 0 (Cache.serves_empty _ _), runs _ _ 0 (Cache.serves_empty _ _), summary, counts, ?_⟩
  apply findings
  simp only [← coe_findings, Multiset.mem_coe]
  intro f mem f' mem' same
  exact List.inj_on_of_nodup_map distinct mem mem' same

end ImportBoundary
