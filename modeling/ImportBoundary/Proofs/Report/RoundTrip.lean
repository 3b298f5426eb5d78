import ImportBoundary.Proofs.Evaluation.Findings
import ImportBoundary.Proofs.Graph.Codec
import ImportBoundary.Proofs.Report.Codec
import ImportBoundary.Report.Annotation
import ImportBoundary.Report.Markdown
import ImportBoundary.Run

/-!
# Where reports come from

A report comes from a run, from a run that failed, or from a text (`Report.Arises`). The numbers of a
run's findings were read from a graph or cut to 32 bits, and the checks put texts and lists of texts
into the payloads. So every report that arises is read back from its text
(`Report.parse_text_of_arises`).
-/

namespace ImportBoundary

open Json (Decoder Printable)

variable {s : Settings} {rules : CompiledRules} {root : Path} {e : Edge}

/-! ## Payloads of the checks

The checks put texts and lists of texts into payloads, at a depth that does not depend on the import.
Printing keeps all of these.
-/

/-- A payload that is kept as it is, and leaves room for the report around it. -/
structure Json.FitsReport (payload : Json) : Prop where
  canonical : payload.canonical = payload
  printable : Printable Finding.payloadDepth payload

theorem fitsReport_destinationPayload (e : Edge) (d : Destination) :
    (destinationPayload e d).FitsReport := by
  refine ⟨Json.canonical_sorted rfl, .sorted ?_⟩
  simp only [List.forall_mem_cons]
  exact ⟨.string _, .string _, .string _, List.forall_mem_nil _⟩

/-- The payloads of a check's drafts fit into a report. -/
theorem Draft.Of.fitsReport {check : Check} {d : Draft} (h : d.Of e check) :
    d.payload.FitsReport := by
  cases h with
  | modules kind message destination => exact fitsReport_destinationPayload e destination
  | layers message destination => exact fitsReport_destinationPayload e destination
  | bounded message rejected =>
      have texts : Json.canonicalItems (rejected.map .string) = rejected.map .string := by
        induction rejected with
        | nil => rfl
        | cons text rest ih =>
            rw [List.map_cons, Json.canonicalItems, ih]
            rfl
      constructor
      · refine Json.canonical_sorted ?_
        simp only [Json.canonicalMembers, Json.canonical, texts]
      · refine .sorted ?_
        simp only [List.forall_mem_cons]
        refine ⟨.string _, .string _, .array fun v mem => ?_, List.forall_mem_nil _⟩
        obtain ⟨text, -, rfl⟩ := List.mem_map.mp mem
        exact .string text

theorem Finding.storable_of_mem_findingsOfCheck {record : ImportRecord} (fits : record.Fits)
    {check : Check} {f : Finding} (mem : f ∈ record.findingsOfCheck s rules root check) :
    f.Storable ∧ Printable Finding.payloadDepth f.payload := by
  obtain ⟨p, d, -, own, rfl⟩ := exists_draft_of_mem_findingsOfCheck mem
  have payload := own.fitsReport
  refine ⟨⟨?_, payload.canonical⟩, payload.printable⟩
  rintro l ⟨⟩
  exact ⟨fits.line, fits.column⟩

/-! ## Reports of runs

Each way to come by a report gives one that is storable. A report that was read from elsewhere may have
any numbers in its payloads, and there `Arises` asks for integers of 64 bits.
-/

namespace Report

theorem figure_le (n : Nat) : Summary.figure n ≤ Decoder.maxNat32 :=
  Nat.le_pred_of_lt (Nat.mod_lt n (by decide))

theorem storable_ofEvaluation {g : ImportGraph} (fits : ∀ record ∈ g.records, record.Fits)
    (startedAt finishedAt : Timestamp) :
    (ofEvaluation (evaluateWith s rules root g) startedAt finishedAt).Storable ∧
      ∀ f ∈ (evaluateWith s rules root g).findings, Printable Finding.payloadDepth f.payload := by
  have each (f : Finding) (mem : f ∈ (evaluateWith s rules root g).findings) :
      f.Storable ∧ Printable Finding.payloadDepth f.payload := by
    have mem : f ∈ g.findings s rules root := Finding.mem_arrange.mp (List.mem_of_mem_take mem)
    obtain ⟨record, record_mem, mem⟩ := List.mem_flatMap.mp mem
    rw [findings_eq] at mem
    obtain ⟨check, -, mem⟩ := List.mem_flatMap.mp mem
    exact Finding.storable_of_mem_findingsOfCheck (fits record record_mem) mem
  refine ⟨⟨rfl, fun f mem => (each f mem).1, ?_⟩, fun f mem => (each f mem).2⟩
  simp only [Summary.Fits, Summary.figures, List.forall_mem_cons]
  exact ⟨figure_le _, figure_le _, figure_le _, figure_le _, figure_le _, List.forall_mem_nil _⟩

theorem storable_ofError (profile : Option String) (message : String) (time : Timestamp) :
    (ofError profile message time).Storable := by
  refine ⟨rfl, fun f mem => ?_, ?_⟩
  · cases List.mem_singleton.mp mem
    exact ⟨nofun, rfl⟩
  · have figures : ∀ n ∈ [0, 0, 0, 1, 1], n ≤ Decoder.maxNat32 := by simp [Decoder.maxNat32]
    exact figures

theorem parse_text_ofError (profile : Option String) (message : String) (time : Timestamp) :
    parse (ofError profile message time).text = .ok (ofError profile message time) := by
  refine parse_text (storable_ofError profile message time) fun f mem => ?_
  cases List.mem_singleton.mp mem
  exact .null

end Report

theorem exists_of_evaluate {compile : PatternCompiler} {g : ImportGraph} {cache : Cache}
    {supply : Nat} {evaluation : Evaluation}
    (h : ((evaluate compile g root s cache).run supply).1.1 = .ok evaluation) :
    ∃ rules, evaluation = evaluateWith s rules root g := by
  rw [evaluate, Supply.run_bind] at h
  change ((cache.resolve compile s).run supply).1.1.map _ = _ at h
  generalize ((cache.resolve compile s).run supply).1.1 = resolved at h
  cases resolved with
  | error error => cases h
  | ok rules => exact ⟨rules, (Except.ok.inj h).symm⟩

/-- A run that comes to an evaluation has read its graph. -/
theorem RunInput.exists_of_run {compile : PatternCompiler} {i : RunInput} {supply : Nat}
    {out : RunOutput} (h : ((i.run compile).run supply).1 = .ok out) :
    ∃ s rules g, ImportGraph.parse i.graph = .ok g ∧
      out.evaluation = evaluateWith s rules i.root g := by
  unfold RunInput.run at h
  split at h
  · cases h
  · next config _ =>
    rw [Supply.run_bind] at h
    split at h
    · cases h
    · split at h
      · cases h
      · next resolved _ _ graph read =>
        rw [Supply.run_bind] at h
        rcases outcome : (evaluate compile graph i.root resolved.settings resolved.cache).run
          ((config.resolve compile i.overrides).run supply).2 with ⟨⟨evaluation, cache⟩, last⟩
        rw [outcome] at h
        cases evaluation with
        | error error => cases h
        | ok evaluation =>
          cases h
          obtain ⟨rules, same⟩ := exists_of_evaluate (congrArg (·.1.1) outcome)
          exact ⟨resolved.settings, rules, graph, read, same⟩

namespace Report

/-- The reports there are: those of runs, those of runs that failed, and those that were read, if the
numbers in their payloads are integers of 64 bits. -/
inductive Arises : Report → Prop
  | evaluated {compile : PatternCompiler} {i : RunInput} {supply : Nat} {out : RunOutput}
      (startedAt finishedAt : Timestamp) (ran : ((i.run compile).run supply).1 = .ok out) :
      Arises (ofEvaluation out.evaluation startedAt finishedAt)
  | failed (profile : Option String) (message : String) (time : Timestamp) :
      Arises (ofError profile message time)
  | read {text : String} {r : Report} (parsed : parse text = .ok r)
      (whole : ∀ f ∈ r.findings, f.payload.Whole) : Arises r

/-- A report that arises is read back from its text, and what is read back is shown in the same way. -/
theorem parse_text_of_arises {r : Report} (h : r.Arises) :
    parse r.text = .ok r ∧
      ∀ r', parse r.text = .ok r' → r'.markdown = r.markdown ∧ r'.annotations = r.annotations := by
  have parsed : parse r.text = .ok r := by
    cases h with
    | evaluated startedAt finishedAt ran =>
      obtain ⟨s, rules, g, read, evaluation⟩ := RunInput.exists_of_run ran
      rw [evaluation]
      obtain ⟨storable, payloads⟩ :=
        storable_ofEvaluation (ImportGraph.fits_of_parse read) startedAt finishedAt
      exact parse_text storable payloads
    | failed profile message time => exact parse_text_ofError profile message time
    | read parsed whole =>
      obtain ⟨storable, height_le⟩ := storable_of_parse parsed
      exact parse_text storable fun f mem => ⟨whole f mem, height_le f mem⟩
  refine ⟨parsed, fun r' again => ?_⟩
  rw [parsed] at again
  cases again
  exact ⟨rfl, rfl⟩

/-- A run over one import, which holds a rejected text. -/
def climbingRun : RunInput where
  root := ⟨"."⟩
  config := "bounded = [\"../../\"]\n"
  graph := "\x7b\"edges\": [\x7b\"file\": \"a.ts\", \"import\": \"../../b\", \"line\": 3\x7d]\x7d"

/-- The run comes to an evaluation, and its report is read back. -/
theorem parse_text_of_arises_climbing :
    ∃ out, ((climbingRun.run Pattern.compile).run 0).1 = .ok out ∧
      (ofEvaluation out.evaluation .epoch .epoch).Arises ∧
      parse (ofEvaluation out.evaluation .epoch .epoch).text =
        .ok (ofEvaluation out.evaluation .epoch .epoch) := by
  have ran : ((climbingRun.run Pattern.compile).run 0).1.isOk := by decide +kernel
  cases outcome : ((climbingRun.run Pattern.compile).run 0).1 with
  | ok out =>
    have arises : (ofEvaluation out.evaluation .epoch .epoch).Arises := .evaluated _ _ outcome
    exact ⟨out, rfl, arises, (parse_text_of_arises arises).1⟩
  | error error => simp [outcome, Except.isOk, Except.toBool] at ran

end Report

end ImportBoundary
