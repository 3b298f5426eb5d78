import ImportBoundary.Proofs.Evaluation.Findings

/-!
# What a fingerprint identifies

A fingerprint is the digest of four texts with bars between them: the check, the code, the importing
file and the import. No check and no code has a bar, so both can be read off the joined text. A file
and an import may have bars, and then the joined text does not tell where the file ends: it is also
that of another edge whose file goes on behind a bar with what the import begins with
(`Edge.Clashes`). Files with equally many bars are told apart (`findings_share_subject_iff`), others
need not be (`findings_of_clashing_edges`).
-/

namespace ImportBoundary

/-! ## Two joined texts

A list that is cut at a separator in two ways is either cut at the same place, or the shorter first
part ends at a separator inside the longer one.
-/

section Joined

variable {α : Type} {sep : α} {a b c d : List α}

/-- Two ways to cut a list at a separator are the same, or one of them cuts at a later separator. -/
theorem append_cons_eq_append_cons_iff : a ++ sep :: b = c ++ sep :: d ↔
    (a = c ∧ b = d) ∨ (∃ middle, c = a ++ sep :: middle ∧ b = middle ++ sep :: d) ∨
      ∃ middle, a = c ++ sep :: middle ∧ d = middle ++ sep :: b := by
  constructor
  · intro same
    -- One of the two first parts begins the other one. What it lacks is empty, or starts with the
    -- separator.
    rcases List.append_eq_append_iff.mp same with ⟨more, rfl, rest⟩ | ⟨more, rfl, rest⟩
    · cases more with
      | nil =>
          cases rest
          exact .inl ⟨(List.append_nil a).symm, rfl⟩
      | cons first middle =>
          cases rest
          exact .inr (.inl ⟨middle, rfl, rfl⟩)
    · cases more with
      | nil =>
          cases rest
          exact .inl ⟨List.append_nil c, rfl⟩
      | cons first middle =>
          cases rest
          exact .inr (.inr ⟨middle, rfl, rfl⟩)
  · rintro (⟨rfl, rfl⟩ | ⟨middle, rfl, rfl⟩ | ⟨middle, rfl, rfl⟩) <;> simp

theorem append_cons_inj (not_mem_a : sep ∉ a) (not_mem_c : sep ∉ c) :
    a ++ sep :: b = c ++ sep :: d ↔ a = c ∧ b = d := by
  refine append_cons_eq_append_cons_iff.trans ⟨?_, Or.inl⟩
  rintro (same | ⟨middle, rfl, -⟩ | ⟨middle, rfl, -⟩)
  · exact same
  · simp at not_mem_c
  · simp at not_mem_a

end Joined

/-! ## Subjects

The check and the code are cut off at the first two bars. What is left is a file and an import.
-/

theorem toList_fingerprintSubject (check code file importText : String) :
    (fingerprintSubject check code file importText).toList =
      check.toList ++ '|' :: (code.toList ++ '|' :: (file.toList ++ '|' :: importText.toList)) := by
  have bar : "|".toList = ['|'] := String.toList_ofList
  show (check ++ "|" ++ code ++ "|" ++ file ++ "|" ++ importText).toList = _
  simp [bar]

/-- What the fingerprint of a finding about an edge is made of. -/
def Finding.subject (f : Finding) (e : Edge) : String :=
  fingerprintSubject f.check f.code e.source.text e.importText

/-- The file of the second edge is that of the first one with a bar and a text behind it. The first
one's import begins with that text and is that of the second one from there on. -/
def Edge.Clashes (e e' : Edge) : Prop :=
  ∃ middle, e'.source.text = e.source.text ++ "|" ++ middle ∧
    e.importText = middle ++ "|" ++ e'.importText

theorem Edge.clashes_iff {e e' : Edge} : e.Clashes e' ↔
    ∃ middle, e'.source.text.toList = e.source.text.toList ++ '|' :: middle ∧
      e.importText.toList = middle ++ '|' :: e'.importText.toList := by
  have bar : "|".toList = ['|'] := String.toList_ofList
  unfold Edge.Clashes
  constructor
  · rintro ⟨middle, source, importText⟩
    refine ⟨middle.toList, ?_, ?_⟩
    · simp [source, bar]
    · simp [importText, bar]
  · rintro ⟨middle, source, importText⟩
    refine ⟨String.ofList middle, ?_, ?_⟩
    · apply String.toList_inj.mp
      simp [source, bar]
    · apply String.toList_inj.mp
      simp [importText, bar]

theorem Edge.Clashes.count_lt {e e' : Edge} (h : e.Clashes e') :
    e.source.text.toList.count '|' < e'.source.text.toList.count '|' := by
  obtain ⟨middle, source, -⟩ := Edge.clashes_iff.mp h
  rw [source, List.count_append, List.count_cons_self]
  omega

/-- A file and an import behind one another stand for one edge or for two that clash. -/
theorem Edge.joined_eq_iff {e e' : Edge} :
    e.source.text.toList ++ '|' :: e.importText.toList =
        e'.source.text.toList ++ '|' :: e'.importText.toList ↔
      (e.source = e'.source ∧ e.importText = e'.importText) ∨ e.Clashes e' ∨ e'.Clashes e := by
  rw [append_cons_eq_append_cons_iff, Edge.clashes_iff, Edge.clashes_iff, String.toList_inj,
    String.toList_inj, Path.mk.injEq]

/-! ## The findings of the checks

Only findings that a check makes are considered. They are stamped with the code of their check or of
their violation, and these have no bars in them.
-/

section Findings

variable {s s' : Settings} {rules rules' : CompiledRules} {root root' : Path}

theorem bar_not_mem_name (check : Check) : '|' ∉ check.name.toList := by
  cases check <;> decide +kernel

theorem Draft.Of.bar_not_mem_code {e : Edge} {check : Check} {d : Draft} (h : d.Of e check) :
    '|' ∉ d.code.toList := by
  have of_kind (kind : ViolationKind) : '|' ∉ kind.code.toList := by
    cases kind <;> decide +kernel
  have of_layer : '|' ∉ Check.layerCode.toList := by decide +kernel
  have of_bounded : '|' ∉ Check.boundedCode.toList := by decide +kernel
  cases h with
  | modules kind => exact of_kind kind
  | layers => exact of_layer
  | bounded => exact of_bounded

/-- A finding is that of a check, under a code of its own, and its fingerprint is made of its
subject. -/
structure Finding.Stamped (f : Finding) (e : Edge) : Prop where
  check : '|' ∉ f.check.toList
  code : '|' ∉ f.code.toList
  fingerprint : f.fingerprint = some (Sha256.hex (f.subject e))

theorem mem_findings_iff {record : ImportRecord} {f : Finding} :
    f ∈ record.findings s rules root ↔ ∃ check, f ∈ record.findingsOfCheck s rules root check := by
  rw [findings_eq, List.mem_flatMap]
  refine exists_congr fun check => and_iff_right ?_
  cases check <;> decide

theorem stamped_of_mem_findings {record : ImportRecord} {f : Finding}
    (mem : f ∈ record.findings s rules root) : f.Stamped (record.edge root) := by
  obtain ⟨check, mem⟩ := mem_findings_iff.mp mem
  obtain ⟨p, d, -, own, rfl⟩ := exists_draft_of_mem_findingsOfCheck mem
  exact ⟨bar_not_mem_name _, own.bar_not_mem_code, rfl⟩

/-- Two subjects are the same just if all four texts are, or the edges clash. -/
theorem Finding.Stamped.subject_eq_iff {f f' : Finding} {e e' : Edge} (h : f.Stamped e)
    (h' : f'.Stamped e') : f.subject e = f'.subject e' ↔ f.check = f'.check ∧ f.code = f'.code ∧
      ((e.source = e'.source ∧ e.importText = e'.importText) ∨ e.Clashes e' ∨ e'.Clashes e) := by
  unfold Finding.subject
  rw [← String.toList_inj, toList_fingerprintSubject, toList_fingerprintSubject,
    append_cons_inj h.check h'.check, append_cons_inj h.code h'.code, Edge.joined_eq_iff,
    String.toList_inj, String.toList_inj]

/-- Two subjects are the same just if all four texts are, or the texts of the edges clash. For files
with equally many bars the four texts are the same. -/
theorem findings_share_subject_iff {compile : PatternCompiler}
    (compiled : CompiledRules.ofSettings compile s = .ok rules) (root : Path) :
    (∀ g cache supply, cache.Serves compile s →
      ∃ r, ((evaluate compile g root s cache).run supply).1.1 = .ok r ∧
        ∀ f ∈ r.findings, ∃ record ∈ g.records, f ∈ record.findings s rules root) ∧
    ∀ record : ImportRecord, ∀ f ∈ record.findings s rules root,
      let e := record.edge root
      f.fingerprint = some (Sha256.hex (f.subject e)) ∧
      ∀ (s' : Settings) (rules' : CompiledRules) (root' : Path) (record' : ImportRecord),
        ∀ f' ∈ record'.findings s' rules' root',
          let e' := record'.edge root'
          (f.subject e = f'.subject e' ↔ f.check = f'.check ∧ f.code = f'.code ∧
            ((e.source = e'.source ∧ e.importText = e'.importText) ∨
              e.Clashes e' ∨ e'.Clashes e)) ∧
          (e.source.text.toList.count '|' = e'.source.text.toList.count '|' →
            f.subject e = f'.subject e' → f.check = f'.check ∧ f.code = f'.code ∧
              e.source = e'.source ∧ e.importText = e'.importText) := by
  refine ⟨?_, ?_⟩
  · intro g cache supply serves
    refine ⟨evaluateWith s rules root g, ?_, ?_⟩
    · rw [run_evaluate_of_serves serves, compiled]
      rfl
    · intro f mem
      have mem_all : f ∈ g.findings s rules root := Finding.mem_arrange.mp (List.mem_of_mem_take mem)
      exact List.mem_flatMap.mp mem_all
  · intro record f mem e
    have stamped : f.Stamped e := stamped_of_mem_findings mem
    refine ⟨stamped.fingerprint, ?_⟩
    intro s' rules' root' record' f' mem' e'
    have same_iff := stamped.subject_eq_iff (stamped_of_mem_findings mem' : f'.Stamped e')
    refine ⟨same_iff, ?_⟩
    intro bars same
    -- Of two texts that clash, one has a bar more before the cut, so with equally many bars there is
    -- no clash.
    obtain ⟨check, code, ⟨source, importText⟩ | clash | clash⟩ := same_iff.mp same
    · exact ⟨check, code, source, importText⟩
    · exact absurd bars clash.count_lt.ne
    · exact absurd bars clash.count_lt.ne'

/-- Settings that have no modules and no layers and reject imports with one of the texts. -/
def rejectingSettings (bounded : List String) : Settings where
  profile := Profile.strict.name
  failOn := Profile.strict.failOn
  maxFindings := Profile.strict.maxFindings
  policies := Profile.strict.policies
  modules := ⟨0, []⟩
  layers := ⟨0, []⟩
  bounded

/-- A file with a bar in its name, seen from two places and under two settings. -/
theorem findings_share_subject_relocated :
    let s := rejectingSettings ["lodash"]
    let record : ImportRecord := { file := "/work/repo/src/a|b.ts", importText := "lodash|fp" }
    let record' : ImportRecord := { file := "src//a|b.ts", importText := "lodash|fp", line := some 3 }
    let e := record.edge ⟨"/work/repo"⟩
    let e' := record'.edge ⟨"."⟩
    CompiledRules.ofSettings Pattern.compile s = .ok ⟨[], []⟩ ∧
      (∃ r, ((evaluate Pattern.compile { records := [record] } ⟨"/work/repo"⟩ s .empty).run 0).1.1 =
        .ok r) ∧
      ∃ f ∈ record.findings s ⟨[], []⟩ ⟨"/work/repo"⟩,
        ∃ f' ∈ record'.findings (rejectingSettings ["|"]) ⟨[], []⟩ ⟨"."⟩,
          e.source.text.toList.count '|' = e'.source.text.toList.count '|' ∧
          f.subject e = f'.subject e' ∧
          f.check = f'.check ∧ f.code = f'.code ∧ e.source = e'.source ∧
            e.importText = e'.importText := by
  intro s record record' e e'
  have compiled : CompiledRules.ofSettings Pattern.compile s = .ok ⟨[], []⟩ := rfl
  have found : (Check.bounded.name, Check.boundedCode) ∈
      (record.findings s ⟨[], []⟩ ⟨"/work/repo"⟩).map fun f => (f.check, f.code) := by
    decide +kernel
  have found' : (Check.bounded.name, Check.boundedCode) ∈
      (record'.findings (rejectingSettings ["|"]) ⟨[], []⟩ ⟨"."⟩).map fun f => (f.check, f.code) := by
    decide +kernel
  obtain ⟨f, mem, named⟩ := List.mem_map.mp found
  obtain ⟨f', mem', named'⟩ := List.mem_map.mp found'
  obtain ⟨check, code⟩ := Prod.mk.inj (named.trans named'.symm)
  have source : e.source = e'.source := by decide +kernel
  have bars : e.source.text.toList.count '|' = e'.source.text.toList.count '|' := by rw [source]
  obtain ⟨runs, identified⟩ := findings_share_subject_iff compiled ⟨"/work/repo"⟩
  obtain ⟨r, run, -⟩ := runs { records := [record] } .empty 0 (Cache.serves_empty _ _)
  obtain ⟨-, shared⟩ := identified record f mem
  obtain ⟨same_iff, same⟩ := shared _ _ _ record' f' mem'
  have subject : f.subject e = f'.subject e' := same_iff.mpr ⟨check, code, .inl ⟨source, rfl⟩⟩
  exact ⟨compiled, ⟨r, run⟩, f, mem, f', mem', bars, subject, same bars subject⟩

/-- Two imports of two files in one graph, with one fingerprint between them. -/
theorem findings_of_clashing_edges :
    let s := rejectingSettings ["c"]
    let record : ImportRecord := { file := "a", importText := "b|c" }
    let record' : ImportRecord := { file := "a|b", importText := "c" }
    let e := record.edge ⟨"."⟩
    let e' := record'.edge ⟨"."⟩
    e.source ≠ e'.source ∧ e.importText ≠ e'.importText ∧
      ∃ r, ((evaluate Pattern.compile { records := [record', record] } ⟨"."⟩ s .empty).run 0).1.1 =
          .ok r ∧
        ∃ f ∈ r.findings, ∃ f' ∈ r.findings, f ∈ record.findings s ⟨[], []⟩ ⟨"."⟩ ∧
          f' ∈ record'.findings s ⟨[], []⟩ ⟨"."⟩ ∧ f.subject e = f'.subject e' ∧
          f.fingerprint = f'.fingerprint := by
  intro s record record' e e'
  have found : (Check.bounded.name, Check.boundedCode) ∈
      (record.findings s ⟨[], []⟩ ⟨"."⟩).map fun f => (f.check, f.code) := by
    decide +kernel
  have found' : (Check.bounded.name, Check.boundedCode) ∈
      (record'.findings s ⟨[], []⟩ ⟨"."⟩).map fun f => (f.check, f.code) := by
    decide +kernel
  obtain ⟨f, mem, named⟩ := List.mem_map.mp found
  obtain ⟨f', mem', named'⟩ := List.mem_map.mp found'
  obtain ⟨check, code⟩ := Prod.mk.inj (named.trans named'.symm)
  let g : ImportGraph := { records := [record', record] }
  have few : (g.findings s ⟨[], []⟩ ⟨"."⟩).length ≤ s.maxFindings := by decide +kernel
  have reported := findings_perm_of_le few
  have source : e.source = ⟨"a"⟩ := by decide +kernel
  have source' : e'.source = ⟨"a|b"⟩ := by decide +kernel
  have clash : e.Clashes e' := by
    refine ⟨"b", ?_, by decide +kernel⟩
    rw [source, source']
    decide +kernel
  have stamped : f.Stamped e := stamped_of_mem_findings mem
  have stamped' : f'.Stamped e' := stamped_of_mem_findings mem'
  have subject : f.subject e = f'.subject e' :=
    (stamped.subject_eq_iff stamped').mpr ⟨check, code, .inr (.inl clash)⟩
  refine ⟨by rw [source, source']; decide, by decide, evaluateWith s ⟨[], []⟩ ⟨"."⟩ g, ?_, f, ?_, f', ?_,
    mem, mem', subject, ?_⟩
  · rw [run_evaluate_of_serves (Cache.serves_empty _ _)]
    rfl
  · exact reported.mem_iff.mpr (List.mem_flatMap.mpr ⟨record, by simp [g], mem⟩)
  · exact reported.mem_iff.mpr (List.mem_flatMap.mpr ⟨record', by simp [g], mem'⟩)
  · rw [stamped.fingerprint, stamped'.fingerprint, subject]

end Findings

end ImportBoundary
