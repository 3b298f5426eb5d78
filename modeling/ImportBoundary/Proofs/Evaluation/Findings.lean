import Mathlib.Data.Multiset.Bind
import ImportBoundary.Proofs.Cache.Faithful
import ImportBoundary.Proofs.Edge.Cell
import ImportBoundary.Proofs.Finding.Order
import ImportBoundary.Settings.Profile

/-!
# An evaluation reports what the checks find

The checks go over a graph edge by edge and share the edge. All the same they find what each of them
finds about each record alone, and as often (`coe_findings`). An evaluation puts these findings in
order and leaves out those behind the greatest number (`Evaluation.Reports`), so that nothing is
lost, doubled or carried from one edge to another (`exists_reports`).
-/

namespace ImportBoundary

variable {s : Settings} {rules : CompiledRules} {root : Path} {g : ImportGraph}

/-! ## What each check finds alone

Alone, a check looks at a fresh edge. The findings of a graph form a multiset here: in which order the
checks run and the records come is a matter of the next section.
-/

/-- What a check finds about a record on a fresh edge. -/
def ImportRecord.findingsOfCheck (record : ImportRecord) (s : Settings) (rules : CompiledRules)
    (root : Path) (check : Check) : List Finding :=
  ((check.findings s rules (record.edge root) record).run none).1

/-- What the checks find in a graph, each of them about each record alone. -/
def ImportGraph.findingsAlone (g : ImportGraph) (s : Settings) (rules : CompiledRules)
    (root : Path) : Multiset Finding :=
  (g.records : Multiset ImportRecord).bind fun record =>
    (Check.all : Multiset Check).bind fun check => record.findingsOfCheck s rules root check

/-- The finding is about the record: it has the severity that the settings give to one of the checks
that run, and it stands in the importing file where the record says. -/
structure Finding.About (f : Finding) (s : Settings) (root : Path) (record : ImportRecord) :
    Prop where
  policy : ∃ check policy, s.policy? (Check.name check) = some policy ∧ f.check = check.name ∧
    f.severity = policy.severity
  location : f.location = some ⟨(record.edge root).source, record.line, record.column⟩

/-- Checks that share the edge of a record find what each of them finds alone. -/
theorem findings_eq (record : ImportRecord) :
    record.findings s rules root = Check.all.flatMap (record.findingsOfCheck s rules root) := by
  have yields := Edge.yields_findingsOf s rules (record.edge root) record Check.all
  exact yields.run_fst (record.edge root).keeps_none

/-- The findings of a graph are those of the checks on each record alone. -/
theorem coe_findings (g : ImportGraph) :
    (g.findings s rules root : Multiset Finding) = g.findingsAlone s rules root := by
  unfold ImportGraph.findings ImportGraph.findingsAlone
  simp only [Multiset.coe_bind, findings_eq]

/-- The drafts that a check may make of an edge. -/
inductive Draft.Of (e : Edge) : Check → Draft → Prop
  | modules (kind : ViolationKind) (message : String) (d : Destination) :
      Of e .modules ⟨.modules, kind.code, message, kind.help, destinationPayload e d⟩
  | layers (message : String) (d : Destination) :
      Of e .layers ⟨.layers, Check.layerCode, message, layerHelp, destinationPayload e d⟩
  | bounded (message : String) (rejected : List String) :
      Of e .bounded ⟨.bounded, Check.boundedCode, message, boundedHelp,
        .sorted [("file", .string e.source.text), ("import", .string e.importText),
          ("rejected", .array (rejected.map .string))]⟩

/-- A check makes no other drafts, whatever the edge keeps in its cell. -/
theorem Draft.of_mem_drafts {e : Edge} {check : Check} {cell : Edge.Cell} {d : Draft}
    (mem : d ∈ ((check.drafts s rules e).run cell).1) : d.Of e check := by
  have run_bind {α β : Type} (x : StateM Edge.Cell α) (f : α → StateM Edge.Cell β)
      (cell : Edge.Cell) : (x >>= f).run cell = (f (x.run cell).1).run (x.run cell).2 := rfl
  -- What the destination is does not matter here, only that a draft shows it, so the state of the cell
  -- is carried along and not looked at.
  cases check with
  | modules =>
      unfold Check.drafts moduleDrafts at mem
      dsimp only at mem
      rw [run_bind] at mem
      split at mem
      · cases mem
      · rw [run_bind] at mem
        cases List.mem_singleton.mp mem
        exact .modules _ _ _
  | layers =>
      unfold Check.drafts layerDrafts at mem
      dsimp only at mem
      rw [run_bind] at mem
      split at mem
      · cases mem
      · rw [run_bind] at mem
        obtain ⟨message, -, rfl⟩ := List.mem_map.mp mem
        exact .layers _ _
  | bounded =>
      change d ∈ boundedDrafts s.bounded e at mem
      unfold boundedDrafts at mem
      dsimp only at mem
      split at mem
      · cases mem
      · cases List.mem_singleton.mp mem
        exact .bounded _ _

theorem Draft.Of.check_eq {e : Edge} {check : Check} {d : Draft} (h : d.Of e check) :
    d.check = check := by
  cases h <;> rfl

/-- A finding of a check that runs comes from a draft of the check. -/
theorem exists_draft_of_mem_findingsOfCheck {record : ImportRecord} {check : Check} {f : Finding}
    (mem : f ∈ record.findingsOfCheck s rules root check) :
    ∃ p d, s.policy? check.name = some p ∧ Draft.Of (record.edge root) check d ∧
      f = d.finding p (record.edge root) record := by
  unfold ImportRecord.findingsOfCheck Check.findings at mem
  cases policy : s.policy? check.name with
  | none =>
      rw [policy] at mem
      cases mem
  | some p =>
      rw [policy] at mem
      obtain ⟨d, mem_drafts, rfl⟩ := List.mem_map.mp mem
      exact ⟨p, d, rfl, Draft.of_mem_drafts mem_drafts, rfl⟩

/-- What a check finds about a record alone is about the record. -/
theorem about_of_mem_findingsOfCheck {record : ImportRecord} {check : Check} {f : Finding}
    (mem : f ∈ record.findingsOfCheck s rules root check) : f.About s root record := by
  obtain ⟨p, d, policy, own, rfl⟩ := exists_draft_of_mem_findingsOfCheck mem
  exact ⟨⟨check, p, policy, congrArg Check.name own.check_eq, rfl⟩, rfl⟩

theorem exists_about_of_mem {f : Finding} (mem : f ∈ g.findingsAlone s rules root) :
    ∃ record ∈ g.records, f.About s root record := by
  obtain ⟨record, mem_records, mem⟩ := Multiset.mem_bind.mp mem
  obtain ⟨check, -, mem⟩ := Multiset.mem_bind.mp mem
  exact ⟨record, mem_records, about_of_mem_findingsOfCheck mem⟩

/-! ## Reports

A report is the beginning of the findings in order. `Evaluation.Reports` says so without the function
that sorts: the findings are in order, those that are left out come behind them, and together they are
all.
-/

/-- An evaluation reports findings up to a greatest number: what it reports is in order, and what it
leaves out does not come before what it reports. -/
structure Evaluation.Reports (cap : Nat) (all : Multiset Finding) (r : Evaluation) : Prop where
  ordered : r.findings.Pairwise fun a b => a.rank ≤ b.rank
  length : r.findings.length = min all.card cap
  rest : ∃ dropped : Multiset Finding, r.findings + dropped = all ∧
    (∀ d ∈ dropped, ∀ f ∈ r.findings, ¬ d.rank < f.rank) ∧
    (dropped ≠ 0 ↔ r.summary.truncatedReason.isSome)

theorem truncationNote_eq_none_iff {total limit : Nat} :
    truncationNote total limit = none ↔ total ≤ limit := by
  unfold truncationNote
  split <;> simp <;> omega

/-- Cutting a list off leaves something out just if the note says so. -/
theorem drop_ne_nil_iff {α : Type} {all : List α} {limit : Nat} :
    all.drop limit ≠ [] ↔ (truncationNote all.length limit).isSome := by
  rw [Option.isSome_iff_ne_none, Ne, Ne, List.drop_eq_nil_iff, truncationNote_eq_none_iff]

/-- An evaluation reports what the checks find in its graph. -/
theorem reports_evaluateWith (g : ImportGraph) :
    (evaluateWith s rules root g).Reports s.maxFindings (g.findingsAlone s rules root) where
  ordered := (Finding.pairwise_arrange _).take
  length := by
    show ((Finding.arrange _).take _).length = _
    rw [List.length_take, Finding.length_arrange, ← coe_findings, Multiset.coe_card, Nat.min_comm]
  rest := by
    let all := Finding.arrange (g.findings s rules root)
    refine ⟨(all.drop s.maxFindings : List Finding), ?_, ?_, ?_⟩
    · show ((all.take s.maxFindings : List Finding) : Multiset Finding) + _ = _
      rw [Multiset.coe_add, List.take_append_drop, ← coe_findings]
      exact Multiset.coe_eq_coe.mpr (Finding.arrange_perm _)
    · intro d dropped f kept
      exact not_lt_of_ge (Finding.rank_le_of_mem_take_of_mem_drop kept dropped)
    · rw [Ne, Multiset.coe_eq_zero]
      exact drop_ne_nil_iff

/-- An evaluation that leaves nothing out reports all findings. -/
theorem findings_perm_of_le (le : (g.findings s rules root).length ≤ s.maxFindings) :
    (evaluateWith s rules root g).findings.Perm (g.findings s rules root) := by
  show ((Finding.arrange _).take _).Perm _
  rw [List.take_of_length_le (by rw [Finding.length_arrange]; exact le)]
  exact Finding.arrange_perm _

/-- An evaluation that leaves nothing out reports of two graphs in one what evaluations of the two
report. -/
theorem findings_perm_append {g₁ g₂ : ImportGraph} (records : g.records = g₁.records ++ g₂.records)
    (whole : (evaluateWith s rules root g).summary.truncatedReason = none) :
    (evaluateWith s rules root g).findings.Perm
      ((evaluateWith s rules root g₁).findings ++ (evaluateWith s rules root g₂).findings) := by
  have le : (g.findings s rules root).length ≤ s.maxFindings := by
    rw [← Finding.length_arrange]
    exact truncationNote_eq_none_iff.mp whole
  have split : g.findings s rules root = g₁.findings s rules root ++ g₂.findings s rules root := by
    unfold ImportGraph.findings
    rw [records, List.flatMap_append]
  have joint := findings_perm_of_le le
  rw [split] at joint le
  rw [List.length_append] at le
  have first : (g₁.findings s rules root).length ≤ s.maxFindings := by omega
  have second : (g₂.findings s rules root).length ≤ s.maxFindings := by omega
  exact joint.trans ((findings_perm_of_le first).append (findings_perm_of_le second)).symm

/-- For settings that compile, every evaluation reports what the checks find about each record
alone, and every such finding is about its record. If an evaluation of two graphs in one leaves
nothing out, it reports what evaluations of the two report. -/
theorem exists_reports {compile : PatternCompiler}
    (compiled : CompiledRules.ofSettings compile s = .ok rules) (root : Path) :
    ∃ report : ImportGraph → Evaluation,
      (∀ g cache supply, cache.Serves compile s →
        ((evaluate compile g root s cache).run supply).1.1 = .ok (report g)) ∧
      (∀ g, (report g).Reports s.maxFindings (g.findingsAlone s rules root)) ∧
      (∀ g : ImportGraph, ∀ f ∈ g.findingsAlone s rules root,
        ∃ record ∈ g.records, f.About s root record) ∧
      ∀ g g₁ g₂ : ImportGraph, g.records = g₁.records ++ g₂.records →
        (report g).summary.truncatedReason = none →
        (report g).findings.Perm ((report g₁).findings ++ (report g₂).findings) := by
  refine ⟨evaluateWith s rules root, ?_, reports_evaluateWith, ?_, ?_⟩
  · intro g cache supply serves
    rw [run_evaluate_of_serves serves, compiled]
    rfl
  · intro g f mem
    exact exists_about_of_mem mem
  · intro g g₁ g₂ records whole
    exact findings_perm_append records whole

/-- Two texts that no import may hold, and room for one finding. -/
def crowdedSettings : Settings where
  profile := Profile.strict.name
  failOn := Profile.strict.failOn
  maxFindings := 1
  policies := Profile.strict.policies
  modules := ⟨0, []⟩
  layers := ⟨0, []⟩
  bounded := ["lodash", "../"]

/-- Two imports with one of the texts each. -/
def crowdedGraph : ImportGraph where
  records := [{ file := "src/main.ts", importText := "lodash/fp", line := some 1 },
    { file := "src/form.ts", importText := "../lib" }]

/-- The checks find two errors, and one of them is reported. -/
theorem exists_reports_crowded :
    CompiledRules.ofSettings Pattern.compile crowdedSettings = .ok ⟨[], []⟩ ∧
      ∃ r, ((evaluate Pattern.compile crowdedGraph ⟨"."⟩ crowdedSettings .empty).run 0).1.1 = .ok r ∧
        r.findings.length = 1 ∧ r.summary.truncatedReason.isSome := by
  have compiled : CompiledRules.ofSettings Pattern.compile crowdedSettings = .ok ⟨[], []⟩ := rfl
  obtain ⟨report, runs, reports, -⟩ := exists_reports compiled ⟨"."⟩
  obtain ⟨-, length, dropped, total, -, noted⟩ := reports crowdedGraph
  have two : (crowdedGraph.findingsAlone crowdedSettings ⟨[], []⟩ ⟨"."⟩).card = 2 := by
    decide +kernel
  rw [two] at length
  refine ⟨compiled, report crowdedGraph, runs _ _ 0 (Cache.serves_empty _ _), length, ?_⟩
  rw [← noted]
  rintro rfl
  rw [← total, Multiset.card_add, Multiset.coe_card, length] at two
  cases two

end ImportBoundary
