import ImportBoundary.Proofs.Cache.Faithful
import ImportBoundary.Proofs.Finding.Order
import ImportBoundary.Settings.Profile

/-!
# The verdict does not depend on the number of findings that are reported

A verdict is made of the findings that are left after cutting off. As the grave findings come first,
at least one that is as grave as any other is left as soon as one is left at all
(`exists_graver_mem_take`), and so the verdict is that of all findings (`verdict_of_cap`).

What findings amount to is first said without looking at them in order (`Verdict.Sums`): it depends on
whether there is an error, and whether there is a warning. Both are kept by any part of the findings
that has a finding as grave as the gravest of all.
-/

namespace ImportBoundary

namespace Severity

/-- Nothing but an error is as grave as an error. -/
theorem rank_le_error_iff {a : Severity} : a.rank ≤ error.rank ↔ a = .error := by
  cases a <;> decide

/-- Errors and warnings are as grave as a warning. -/
theorem rank_le_warning_iff {a : Severity} : a.rank ≤ warning.rank ↔ a = .error ∨ a = .warning := by
  cases a <;> decide

end Severity

namespace Verdict

/-- What findings amount to: an error fails. Without an error, a warning fails or warns, as the
settings say, and without either of them the verdict is to pass. -/
inductive Sums (failOn : FailOn) (findings : List Finding) : Verdict → Prop
  | error {f : Finding} (mem : f ∈ findings) (grave : f.severity = .error) :
      Sums failOn findings .fail
  | warningFails {f : Finding} (no_error : ∀ f ∈ findings, f.severity ≠ .error)
      (mem : f ∈ findings) (grave : f.severity = .warning) (fails : failOn = .warning) :
      Sums failOn findings .fail
  | warningWarns {f : Finding} (no_error : ∀ f ∈ findings, f.severity ≠ .error)
      (mem : f ∈ findings) (grave : f.severity = .warning) (warns : failOn = .error) :
      Sums failOn findings .warn
  | clean (no_error : ∀ f ∈ findings, f.severity ≠ .error)
      (no_warning : ∀ f ∈ findings, f.severity ≠ .warning) : Sums failOn findings .pass

variable {failOn : FailOn} {findings few all : List Finding} {v w : Verdict}

/-- Findings amount to one verdict only. -/
theorem Sums.unique (first : v.Sums failOn findings) (second : w.Sums failOn findings) : v = w := by
  -- What excludes each other are an error against none, a warning against none, and the two levels.
  cases first with
  | error mem grave =>
      cases second with
      | error => rfl
      | warningFails => rfl
      | warningWarns no_error => exact absurd grave (no_error _ mem)
      | clean no_error => exact absurd grave (no_error _ mem)
  | warningFails no_error mem grave fails =>
      cases second with
      | error mem grave => exact absurd grave (no_error _ mem)
      | warningFails => rfl
      | warningWarns _ _ _ warns => cases fails.symm.trans warns
      | clean _ no_warning => exact absurd grave (no_warning _ mem)
  | warningWarns no_error mem grave warns =>
      cases second with
      | error mem grave => exact absurd grave (no_error _ mem)
      | warningFails _ _ _ fails => cases warns.symm.trans fails
      | warningWarns => rfl
      | clean _ no_warning => exact absurd grave (no_warning _ mem)
  | clean no_error no_warning =>
      cases second with
      | error mem grave => exact absurd grave (no_error _ mem)
      | warningFails _ mem grave => exact absurd grave (no_warning _ mem)
      | warningWarns _ mem grave => exact absurd grave (no_warning _ mem)
      | clean => rfl

/-- The verdict on findings is what they amount to. -/
theorem sums_ofFindings (failOn : FailOn) (findings : List Finding) :
    (ofFindings findings failOn).Sums failOn findings := by
  unfold ofFindings
  by_cases error : ∃ f ∈ findings, f.severity = .error
  · obtain ⟨f, mem, grave⟩ := error
    rw [if_pos (by simpa using ⟨f, mem, grave⟩)]
    exact .error mem grave
  · have no_error : ∀ f ∈ findings, f.severity ≠ .error := by simpa using error
    rw [if_neg (by simpa using error)]
    by_cases warning : ∃ f ∈ findings, f.severity = .warning
    · obtain ⟨f, mem, grave⟩ := warning
      rw [if_pos (by simpa using ⟨f, mem, grave⟩)]
      cases failOn with
      | error => exact .warningWarns no_error mem grave rfl
      | warning => exact .warningFails no_error mem grave rfl
    · rw [if_neg (by simpa using warning)]
      exact .clean no_error (by simpa using warning)

/-- A verdict on some findings is that on all of them, if the graver ones are among the some. -/
theorem Sums.of_leading (sums : v.Sums failOn few) (sub : ∀ f ∈ few, f ∈ all)
    (leading : ∀ f ∈ all, ∃ g ∈ few, g.severity.rank ≤ f.severity.rank) : v.Sums failOn all := by
  -- An error among all findings would leave one among the few.
  have no_error (clean : ∀ f ∈ few, f.severity ≠ .error) : ∀ f ∈ all, f.severity ≠ .error := by
    intro f mem grave
    obtain ⟨g, mem_few, graver⟩ := leading f mem
    rw [grave, Severity.rank_le_error_iff] at graver
    exact clean g mem_few graver
  cases sums with
  | error mem grave => exact .error (sub _ mem) grave
  | warningFails clean mem grave fails => exact .warningFails (no_error clean) (sub _ mem) grave fails
  | warningWarns clean mem grave warns => exact .warningWarns (no_error clean) (sub _ mem) grave warns
  | clean clean no_warning =>
      refine .clean (no_error clean) ?_
      intro f mem grave
      obtain ⟨g, mem_few, graver⟩ := leading f mem
      rw [grave, Severity.rank_le_warning_iff] at graver
      rcases graver with error | warning
      · exact clean g mem_few error
      · exact no_warning g mem_few warning

end Verdict

/-- As soon as one of the arranged findings is left, one is left that is as grave as any. -/
theorem Finding.exists_graver_mem_take {findings : List Finding} {n : Nat} (pos : 1 ≤ n)
    {f : Finding} (mem : f ∈ findings) :
    ∃ g ∈ (arrange findings).take n, g.severity.rank ≤ f.severity.rank := by
  have sorted := pairwise_severity_arrange findings
  rw [← mem_arrange] at mem
  cases arranged : arrange findings with
  | nil =>
      rw [arranged] at mem
      cases mem
  | cons first rest =>
      rw [arranged] at sorted mem
      -- The first finding is left, and no other one is graver.
      obtain ⟨n, rfl⟩ := Nat.exists_eq_add_of_le' pos
      refine ⟨first, List.mem_cons_self, ?_⟩
      rcases List.mem_cons.mp mem with rfl | later
      · exact Nat.le_refl _
      · exact (List.pairwise_cons.mp sorted).1 f later

/-- The verdict on the findings that are left is that on all findings, if one is left at all. -/
theorem Finding.sums_take_arrange (failOn : FailOn) (findings : List Finding) {n : Nat}
    (pos : 1 ≤ n) :
    (Verdict.ofFindings ((arrange findings).take n) failOn).Sums failOn findings := by
  refine (Verdict.sums_ofFindings failOn _).of_leading ?_ ?_
  · intro f mem
    exact mem_arrange.mp (List.mem_of_mem_take mem)
  · intro f mem
    exact exists_graver_mem_take pos mem

/-- For settings that compile, evaluations that report at least one finding have the verdict that
all findings amount to, and count all of them. They differ in where their findings end. -/
theorem verdict_of_cap {compile : PatternCompiler} {s : Settings} {rules : CompiledRules}
    (compiled : CompiledRules.ofSettings compile s = .ok rules) (g : ImportGraph) (root : Path) :
    ∃ report : Nat → Evaluation,
      (∀ cap cache supply, cache.Serves compile { s with maxFindings := cap } →
        ((evaluate compile g root { s with maxFindings := cap } cache).run supply).1.1 =
          .ok (report cap)) ∧
      (∀ cap, 1 ≤ cap → (report cap).verdict.Sums s.failOn (g.findings s rules root)) ∧
      (∀ m n, 1 ≤ m → 1 ≤ n → (report m).verdict = (report n).verdict ∧
        (report m).summary.findingsTotal = (report n).summary.findingsTotal) ∧
      (∀ m n, m ≤ n → (report m).findings <+: (report n).findings) ∧
      (report 0).verdict = .pass := by
  let report (cap : Nat) := evaluateWith { s with maxFindings := cap } rules root g
  have sums (cap : Nat) (pos : 1 ≤ cap) :
      (report cap).verdict.Sums s.failOn (g.findings s rules root) :=
    Finding.sums_take_arrange s.failOn (g.findings s rules root) pos
  refine ⟨report, ?_, sums, ?_, ?_, rfl⟩
  · intro cap cache supply serves
    have compiled_cap : CompiledRules.ofSettings compile { s with maxFindings := cap } = .ok rules :=
      compiled
    rw [run_evaluate_of_serves serves, compiled_cap]
    rfl
  · intro m n pos_m pos_n
    exact ⟨(sums m pos_m).unique (sums n pos_n), rfl⟩
  · intro m n le
    show (Finding.arrange _).take m <+: (Finding.arrange _).take n
    exact List.take_prefix_take_left le

/-- A private module and a text that no import may hold. -/
def mixedSettings : Settings where
  profile := Profile.compat.name
  failOn := Profile.compat.failOn
  maxFindings := Profile.compat.maxFindings
  policies := Profile.compat.policies
  modules := ⟨0, [.node { path := "src/app" } []]⟩
  layers := ⟨1, []⟩
  bounded := ["lodash"]

/-- An import that is warned about, and after it one that is an error. -/
def mixedGraph : ImportGraph where
  records := [{ file := "src/main.ts", importText := "lodash/fp", line := some 1 },
    { file := "src/main.ts", importText := "./app/form", line := some 2 }]

/-- The error comes second and still decides, even if one finding is reported only. -/
theorem verdict_of_cap_mixed :
    let rules : CompiledRules := ⟨[.node ⟨⟨"src/app"⟩, [], [], .all, [], none⟩ []], []⟩
    CompiledRules.ofSettings Pattern.compile mixedSettings = .ok rules ∧
      ∀ cap, 1 ≤ cap → ∃ r, ((evaluate Pattern.compile mixedGraph ⟨"."⟩
        { mixedSettings with maxFindings := cap } .empty).run 0).1.1 = .ok r ∧ r.verdict = .fail := by
  intro rules
  have compiled : CompiledRules.ofSettings Pattern.compile mixedSettings = .ok rules := rfl
  refine ⟨compiled, ?_⟩
  intro cap pos
  obtain ⟨report, runs, sums, -⟩ := verdict_of_cap compiled mixedGraph ⟨"."⟩
  have error : (mixedGraph.findings mixedSettings rules ⟨"."⟩).any
      (fun f => f.severity = .error) = true := by decide +kernel
  obtain ⟨f, mem, grave⟩ := List.any_eq_true.mp error
  refine ⟨report cap, runs cap _ 0 (Cache.serves_empty _ _), ?_⟩
  exact (sums cap pos).unique (.error mem (of_decide_eq_true grave))

end ImportBoundary
