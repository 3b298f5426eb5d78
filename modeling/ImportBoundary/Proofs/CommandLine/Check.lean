import ImportBoundary.CommandLine.Program
import ImportBoundary.Proofs.Host.Rewrite
import ImportBoundary.Proofs.Report.RoundTrip

/-!
# What a check leaves behind

A check speaks in three places: its exit code, its report and the error output. It may fail at every
step, even after its report has been written. `CheckTask.EndsIn` lists the ways in which its steps end,
`CheckTask.steps_lead` shows that there are no others, and `code_errors_report_agree` that the three
places agree in each of them, on every lawful host. The report about a failure has to be accepted by the
host; a disk does so if it would have accepted a report at the start (`CheckTask.accepts_of_perform`).

Steps write lines to the error output and may fail, on a host with a state. `Steps.Leads` says of steps
where they lead from a state, whatever was written before, and there is one rule for each kind of step.
The steps of a check are then gone through once, in the order in which they are taken.
-/

namespace ImportBoundary.CommandLine

open Host (Alike Lawful Looks WriteError)

variable {σ File α β : Type} {compile : PatternCompiler} {h : Host (StateM σ)} {like : σ → σ → Prop}
  {s s' : σ}

/-! ### Where steps lead

A rule takes one step and asks where the steps behind it lead, from the state that the step leaves.
-/

namespace Steps

/-- Whatever stands on the error output before, steps come from a state to a result and a state that
are related. -/
def Leads (steps : Steps (StateM σ) α) (s : σ) (ends : Except (List String) α → σ → Prop) : Prop :=
  ∀ log, ends (((ExceptT.run steps).run log).run s).1.1 (((ExceptT.run steps).run log).run s).2

variable {ends : Except (List String) α → σ → Prop} {next : β → Steps (StateM σ) α}

theorem leads_pure {a : α} (done : ends (.ok a) s) : (pure a : Steps (StateM σ) α).Leads s ends :=
  fun _ => done

theorem leads_bind {steps : Steps (StateM σ) β} {middle : Except (List String) β → σ → Prop}
    (first : steps.Leads s middle) (onward : ∀ b s', middle (.ok b) s' → (next b).Leads s' ends)
    (failed : ∀ chain s', middle (.error chain) s' → ends (.error chain) s') :
    (steps >>= next).Leads s ends := by
  intro log
  have reached := first log
  simp only [ExceptT.run_bind, StateT.run_bind]
  generalize ((ExceptT.run steps).run log).run s = middle at reached ⊢
  obtain ⟨⟨_ | _, log'⟩, s'⟩ := middle
  · exact failed _ _ reached
  · exact onward _ _ reached _

theorem leads_ask_bind {act : StateM σ β} (onward : (next (act.run s).1).Leads (act.run s).2 ends) :
    (ask act >>= next).Leads s ends :=
  fun log => onward log

theorem leads_say_bind {line : String} {next : Unit → Steps (StateM σ) α}
    (onward : (next ()).Leads s ends) : (say line >>= next).Leads s ends :=
  fun log => onward (log ++ line ++ "\n")

theorem leads_orFail_bind {ε : Type} {chain : ε → List String} {r : Except ε β}
    (onward : ∀ b, r = .ok b → (next b).Leads s ends)
    (failed : ∀ e, r = .error e → ends (.error (chain e)) s) :
    (orFail chain r >>= next).Leads s ends := by
  cases r with
  | ok b => exact fun log => onward b rfl log
  | error e => exact fun log => failed e rfl

theorem leads_readConfigText_bind {name : String} {next : String → Steps (StateM σ) α}
    (onward : (next ((h.held s name).toOption.getD "")).Leads ((h.readText name).run s).2 ends) :
    (readConfigText h name >>= next).Leads s ends := by
  unfold readConfigText
  rw [bind_assoc]
  refine leads_ask_bind ?_
  unfold Host.held at onward
  cases read : ((h.readText name).run s).1 with
  | ok text =>
    rw [read] at onward
    exact onward
  | error e =>
    rw [read] at onward
    exact fun log => onward _

end Steps

/-! ### What a check runs on

The root and the texts are those of the first state. Looking at the host leads to other states, but to
states that are like the first one, so a later answer of the host is the answer that the first state
would have given.
-/

/-- The name under which a check knows its root in a state. -/
def CheckTask.rootIn (h : Host (StateM σ)) (t : CheckTask) (s : σ) : String :=
  ((h.canonical? t.root).run s).1.getD t.root

/-- What a check runs on in a state: something has to be there under the name of its root, and its
graph has to be read. -/
def CheckTask.input (h : Host (StateM σ)) (t : CheckTask) (s : σ) : Except (List String) RunInput :=
  match h.there s (t.rootIn h s), h.held s t.graph with
  | false, _ => .error ["root does not exist: " ++ t.rootIn h s]
  | true, .error e => .error ["read import graph: " ++ t.graph, e.message]
  | true, .ok graph =>
    .ok ⟨Path.normalize (t.rootIn h s),
      (h.held s (FileName.join (t.rootIn h s) t.config)).toOption.getD "", graph, t.overrides⟩

/-- What a check comes to in a state. -/
def CheckTask.output (compile : PatternCompiler) (h : Host (StateM σ)) (t : CheckTask) (s : σ) :
    Except (List String) RunOutput :=
  t.input h s >>= fun input => ((input.run compile).run 0).1.mapError RunError.chain

/-- A check has made its report in a state that is like the first one. -/
structure CheckTask.Makes (compile : PatternCompiler) (h : Host (StateM σ)) (like : σ → σ → Prop)
    (t : CheckTask) (s : σ) (r : Report) (s' : σ) : Prop where
  made : ∃ o startedAt finishedAt, t.output compile h s = .ok o ∧
    r = .ofEvaluation o.evaluation startedAt finishedAt
  alike : like s s'

/-- The ways in which the steps of a check end, with the state in which they do. -/
inductive CheckTask.EndsIn (compile : PatternCompiler) (h : Host (StateM σ)) (like : σ → σ → Prop)
    (t : CheckTask) (s : σ) : Except (List String) Verdict → σ → Prop
  /-- There is nothing to report on. -/
  | unchecked {chain : List String} {s' : σ} : t.output compile h s = .error chain → like s s' →
      EndsIn compile h like t s (.error chain) s'
  /-- The report cannot be written. -/
  | unreported {r : Report} {cause : WriteError} {s₁ s' : σ} : t.Makes compile h like s r s₁ →
      (writeReport h t.report r).run s₁ = (.error cause, s') →
      EndsIn compile h like t s (.error (behind "write report json" WriteError.chain cause)) s'
  /-- The report is written, and the Markdown cannot be written. -/
  | unshown {r : Report} {name : String} {cause : WriteError} {s₁ s₂ s' : σ} :
      t.Makes compile h like s r s₁ → (writeReport h t.report r).run s₁ = (.ok (), s₂) →
      t.markdown = some name → (h.writeFile "text" name r.markdown).run s₂ = (.error cause, s') →
      EndsIn compile h like t s (.error (behind "write markdown" WriteError.chain cause)) s'
  /-- The report is written, and no Markdown is asked for. -/
  | reported {r : Report} {s₁ s' : σ} : t.Makes compile h like s r s₁ →
      (writeReport h t.report r).run s₁ = (.ok (), s') → t.markdown = none →
      EndsIn compile h like t s (.ok r.verdict) s'
  /-- The report is written, and the Markdown as well. -/
  | shown {r : Report} {name : String} {s₁ s₂ s' : σ} :
      t.Makes compile h like s r s₁ → (writeReport h t.report r).run s₁ = (.ok (), s₂) →
      t.markdown = some name → (h.writeFile "text" name r.markdown).run s₂ = (.ok (), s') →
      EndsIn compile h like t s (.ok r.verdict) s'

theorem CheckTask.output_of_input {t : CheckTask} {input : RunInput}
    (given : t.input h s = .ok input) :
    t.output compile h s = ((input.run compile).run 0).1.mapError RunError.chain := by
  rw [output, given]
  rfl

theorem CheckTask.output_of_input_error {t : CheckTask} {chain : List String}
    (missing : t.input h s = .error chain) : t.output compile h s = .error chain := by
  rw [output, missing]
  rfl

/-- The host is asked for the absolute name first, and whether something is there under the name that
came of it in the state behind that. -/
theorem Steps.leads_findRoot_bind {ends : Except (List String) α → σ → Prop}
    {next : String → Steps (StateM σ) α} (looks : Looks h like) {t : CheckTask}
    (onward : ∀ s', like s s' → h.there s (t.rootIn h s) = true →
      (next (t.rootIn h s)).Leads s' ends)
    (failed : ∀ s', like s s' → h.there s (t.rootIn h s) = false →
      ends (.error ["root does not exist: " ++ t.rootIn h s]) s') :
    (t.findRoot h >>= next).Leads s ends := by
  unfold CheckTask.findRoot
  rw [bind_assoc]
  refine leads_ask_bind ?_
  have named := looks.canonical s t.root
  rw [bind_assoc]
  refine leads_ask_bind ?_
  change ((if h.there _ (t.rootIn h s) then _ else _) >>= next).Leads _ _
  rw [looks.there_eq _ named]
  have looked := looks.trans named (looks.isThere _ (t.rootIn h s))
  cases found : h.there s (t.rootIn h s) with
  | true => exact onward _ looked found
  | false => exact fun log => failed _ looked found

open Steps in
theorem CheckTask.makeReport_leads (compile : PatternCompiler) (looks : Looks h like) (t : CheckTask)
    (s : σ) :
    (t.makeReport compile h).Leads s fun
      | .error chain, s' => t.output compile h s = .error chain ∧ like s s'
      | .ok r, s' => t.Makes compile h like s r s' := by
  refine leads_findRoot_bind looks (fun s₁ looked found => ?_) fun s₁ looked missing =>
    ⟨output_of_input_error (by simp only [input, missing]), looked⟩
  -- From here on the name of the root stays what it was in the first state.
  generalize root_eq : t.rootIn h s = root at found
  refine leads_readConfigText_bind ?_
  rw [looks.held_eq _ looked]
  replace looked := looks.trans looked (looks.readText s₁ (FileName.join root t.config))
  generalize ((h.readText (FileName.join root t.config)).run s₁).2 = s₂ at looked ⊢
  refine leads_ask_bind ?_
  change (Steps.orFail _ (h.held s₂ t.graph) >>= _).Leads _ _
  rw [looks.held_eq _ looked]
  replace looked := looks.trans looked (looks.readText s₂ t.graph)
  generalize ((h.readText t.graph).run s₂).2 = s₃ at looked ⊢
  refine leads_orFail_bind (fun graph read => leads_ask_bind ?_) fun e unread =>
    ⟨output_of_input_error (by simp only [input, root_eq, found, unread]), looked⟩
  have given : t.input h s = .ok ⟨Path.normalize root,
      (h.held s (FileName.join root t.config)).toOption.getD "", graph, t.overrides⟩ := by
    simp only [input, root_eq, found, read]
  replace looked := looks.trans looked (looks.now s₃)
  generalize (h.now.run s₃).2 = s₄ at looked ⊢
  refine leads_orFail_bind (fun o ran => leads_ask_bind ?_) fun e failed =>
    ⟨(output_of_input given).trans (congrArg _ failed), looked⟩
  have come : t.output compile h s = .ok o := (output_of_input given).trans (congrArg _ ran)
  have makes (startedAt finishedAt : Timestamp) :
      t.Makes compile h like s (.ofEvaluation o.evaluation startedAt finishedAt) (h.now.run s₄).2 :=
    ⟨⟨o, startedAt, finishedAt, come, rfl⟩, looks.trans looked (looks.now s₄)⟩
  -- Whether there is a line about missing edges makes no difference.
  dsimp only
  split
  · exact leads_say_bind (leads_pure (makes _ _))
  · exact leads_pure (makes _ _)

open Steps in
theorem CheckTask.publish_leads {t : CheckTask} {r : Report} (makes : t.Makes compile h like s r s') :
    (t.publish h r).Leads s' fun result s' =>
      t.EndsIn compile h like s (result.map fun _ => r.verdict) s' := by
  refine leads_ask_bind ?_
  refine leads_orFail_bind (fun _ wrote => leads_say_bind ?_) fun cause refused =>
    .unreported makes (Prod.ext refused rfl)
  cases asked : t.markdown with
  | none => exact leads_pure (.reported makes (Prod.ext wrote rfl) asked)
  | some name =>
    refine leads_ask_bind (leads_orFail_bind (fun _ showed => ?_) fun cause refused => ?_)
    · exact fun log => .shown makes (Prod.ext wrote rfl) asked (Prod.ext showed rfl)
    · exact .unshown makes (Prod.ext wrote rfl) asked (Prod.ext refused rfl)

open Steps in
/-- The steps of a check end in one of the ways. -/
theorem CheckTask.steps_lead (compile : PatternCompiler) (looks : Looks h like) (t : CheckTask)
    (s : σ) : (t.steps compile h).Leads s (t.EndsIn compile h like s) :=
  leads_bind (t.makeReport_leads compile looks s)
    (fun _ _ makes => leads_bind (publish_leads makes) (fun _ _ ends => leads_pure ends)
      fun _ _ ends => ends)
    fun _ _ failed => .unchecked failed.1 failed.2

/-! ### What is left behind

A failure is reported in the state in which the steps end, and the report goes to the same file that a
report of success may have been written to before. So the last thing that is written decides what is in
the file, and `Lawful.writeFile` says what that is.
-/

namespace CheckTask

variable {t : CheckTask} {r : Report} {verdict : Verdict} {chain : List String} {log : String}
  {s₁ : σ}

theorem endsIn_of_perform (looks : Looks h like) {result : Except (List String) Verdict}
    (performed : (Steps.perform (t.steps compile h)).run s = ((result, log), s₁)) :
    t.EndsIn compile h like s result s₁ := by
  have ends := t.steps_lead compile looks s ""
  unfold Steps.perform at performed
  rw [performed] at ends
  exact ends

/-- A report that has been written is there, and a Markdown file apart from it leaves it there. -/
theorem EndsIn.held_report {file : σ → String → File} (lawful : Lawful h file)
    (apart : ∀ name ∈ t.markdown, file s name ≠ file s t.report)
    (ends : t.EndsIn compile h (Alike h file) s (.ok verdict) s') :
    ∃ o startedAt finishedAt, t.output compile h s = .ok o ∧ o.evaluation.verdict = verdict ∧
      h.held s' t.report = .ok (Report.ofEvaluation o.evaluation startedAt finishedAt).text := by
  cases ends with
  | reported makes wrote _ =>
    obtain ⟨o, startedAt, finishedAt, come, rfl⟩ := makes.made
    exact ⟨o, startedAt, finishedAt, come, rfl, (lawful.writeFile wrote).2⟩
  | @shown _ name s₁ s₂ _ makes wrote asked showed =>
    obtain ⟨o, startedAt, finishedAt, come, rfl⟩ := makes.made
    obtain ⟨kept, held⟩ := lawful.writeFile wrote
    have other : ¬file s₂ t.report = file s₂ name := by
      rw [kept.file_eq, kept.file_eq, makes.alike.file_eq, makes.alike.file_eq]
      exact (apart name asked).symm
    exact ⟨o, startedAt, finishedAt, come, rfl, (lawful.writeFile showed).1.held_eq other held⟩

/-- If a disk accepts the report of a check at the start, it accepts another one after the check has
failed. -/
theorem accepts_of_perform {time : Timestamp} {d d₁ d₂ : Disk}
    (writable : (writeReport (Disk.host time) t.report r).run d = (.ok (), d₁))
    (failed : (Steps.perform (t.steps compile (Disk.host time))).run d = ((.error chain, log), d₂))
    (r' : Report) :
    ∃ d₃, (writeReport (Disk.host time) t.report r').run d₂ = (.ok (), d₃) := by
  have ends := t.endsIn_of_perform (Disk.looks_host time) failed
  -- The disk is still the first one when the report is written.
  cases ends with
  | unchecked _ same =>
    subst same
    exact Disk.writeFile_other writable _ _
  | @unreported first _ _ _ makes refused =>
    obtain rfl := makes.alike
    obtain ⟨d₃, accepted⟩ := Disk.writeFile_other writable "report" first.text
    rw [writeReport, accepted] at refused
    cases refused
  | @unshown first name _ _ d _ makes wrote _ refused =>
    have grows := Disk.grows_writeFile time d "text" name first.markdown
    rw [refused] at grows
    exact Disk.writeFile_again wrote grows _ _

theorem run_of_ok (done : (Steps.perform (t.steps compile h)).run s = ((.ok verdict, log), s₁)) :
    (run compile h t).run s = ({ code := verdict.exitCode, errors := log }, s₁) := by
  unfold run
  rw [Host.run_bind, done]
  rfl

theorem run_of_error (failed : (Steps.perform (t.steps compile h)).run s = ((.error chain, log), s₁))
    (told : r = Report.ofError t.overrides.profile (oneLine chain) (h.now.run s₁).1) :
    (run compile h t).run s =
      ({ code := 1, errors := log ++ "modguard error: " ++ oneLine chain ++ "\n" },
        ((writeReport h t.report r).run (h.now.run s₁).2).2) := by
  unfold run
  rw [Host.run_bind, failed, told]
  rfl

end CheckTask

/-- The check that is asked for. -/
def Invocation.task? (i : Invocation) : Option CheckTask :=
  match i.command with
  | .check graph report markdown => some ⟨i.root, i.config, i.overrides, graph, report, markdown⟩
  | _ => none

theorem run_eq_of_task {arguments : List String} {i : Invocation} {t : CheckTask}
    (read : Invocation.read arguments = .ok i) (asks : i.task? = some t) :
    runWith compile h arguments = t.run compile h := by
  unfold runWith
  rw [read]
  dsimp only
  unfold Invocation.run
  unfold Invocation.task? at asks
  split at asks
  · next command =>
    cases asks
    rw [command]
  · cases asks

/-- A check that leaves with 0 or 2 has written its report, and the code is 2 exactly if the verdict is
`fail`. Otherwise it leaves with 1, and the error output ends with a message; if the host accepts a
report about it, that stands in the place of the report, and the message is its only finding. -/
theorem code_errors_report_agree (compile : PatternCompiler) {file : σ → String → File}
    (lawful : Lawful h file) {arguments : List String} {i : Invocation} {t : CheckTask}
    (read : Invocation.read arguments = .ok i) (asks : i.task? = some t)
    (apart : ∀ name ∈ t.markdown, file s name ≠ file s t.report) {outcome : Outcome} {left : σ}
    (ran : (runWith compile h arguments).run s = (outcome, left)) :
    (outcome.code = 0 ∨ outcome.code = 2 →
      ∃ o startedAt finishedAt, t.output compile h s = .ok o ∧
        t.EndsIn compile h (Alike h file) s (.ok o.evaluation.verdict) left ∧
        h.held left t.report = .ok (Report.ofEvaluation o.evaluation startedAt finishedAt).text ∧
        (outcome.code = 2 ↔ o.evaluation.verdict = .fail)) ∧
    (¬(outcome.code = 0 ∨ outcome.code = 2) →
      outcome.code = 1 ∧ ∃ chain log s₁ r,
        (Steps.perform (t.steps compile h)).run s = ((.error chain, log), s₁) ∧
        t.EndsIn compile h (Alike h file) s (.error chain) s₁ ∧
        outcome.errors = log ++ "modguard error: " ++ oneLine chain ++ "\n" ∧
        r = Report.ofError t.overrides.profile (oneLine chain) (h.now.run s₁).1 ∧
        r.verdict = .fail ∧ r.findings = [Report.errorFinding (oneLine chain)] ∧
        Report.parse r.text = .ok r ∧
        (((writeReport h t.report r).run (h.now.run s₁).2).1 = .ok () →
          h.held left t.report = .ok r.text)) := by
  rw [run_eq_of_task read asks] at ran
  rcases performed : (Steps.perform (t.steps compile h)).run s with ⟨⟨chain | verdict, log⟩, s₁⟩
  · have ends := t.endsIn_of_perform lawful.looks performed
    -- The steps have failed. What is left is the report about the failure, if the host takes it.
    rw [CheckTask.run_of_error performed rfl] at ran
    cases ran
    have parsed := Report.parse_text_ofError t.overrides.profile (oneLine chain) (h.now.run s₁).1
    exact ⟨fun success => by simp at success, fun _ => ⟨rfl, chain, log, s₁, _, rfl, ends, rfl, rfl,
      rfl, rfl, parsed, fun accepted => (lawful.writeFile (Prod.ext accepted rfl)).2⟩⟩
  · have ends := t.endsIn_of_perform lawful.looks performed
    -- The steps have gone through, and the verdict decides the code. Writing the Markdown has left the
    -- report alone, since it has another name.
    rw [CheckTask.run_of_ok performed] at ran
    cases ran
    obtain ⟨o, startedAt, finishedAt, come, rfl, held⟩ := ends.held_report lawful apart
    refine ⟨fun _ => ⟨o, startedAt, finishedAt, come, ends, held, ?_⟩, fun failed => ?_⟩
    · cases o.evaluation.verdict <;> simp [Verdict.exitCode]
    · revert failed
      cases o.evaluation.verdict <;> simp [Verdict.exitCode]

/-- A work directory with a graph without imports. -/
def bareDisk : Disk := .ofFiles ["work".toList] [(["graph.json".toList], "\x7b\x7d")]

-- The root has no absolute name here. Something is there under the name as given, so the check runs.
example : ((run { Disk.host .epoch with canonical? := fun _ => pure none }
    ["check", "--graph", "graph.json", "--report-out", "report.json"]).run bareDisk).1.code = 0 := by
  decide +kernel

/-- A check whose Markdown goes to a name that stands for a directory. -/
def strayTask : CheckTask where
  root := "."
  config := "modguard.toml"
  overrides := {}
  graph := "graph.json"
  report := "report.json"
  markdown := some "/"

def strayArguments : List String :=
  ["check", "--graph", "graph.json", "--report-out", "report.json", "--write-markdown",
    "--markdown-out", "/"]

/-- The report has been written when the Markdown is refused. Another report takes its place. -/
theorem code_errors_report_agree_stray :
    ∃ outcome left r, (run (Disk.host .epoch) strayArguments).run bareDisk = (outcome, left) ∧
      outcome.code = 1 ∧
      (∃ log, outcome.errors = log ++ "modguard error: " ++
        "write markdown: write text: /: Is a directory (os error 21)" ++ "\n") ∧
      left.read "report.json" = .ok r.text ∧ Report.parse r.text = .ok r ∧ r.verdict = .fail ∧
      r.findings =
        [Report.errorFinding "write markdown: write text: /: Is a directory (os error 21)"] := by
  have read : Invocation.read strayArguments =
      .ok { command := .check "graph.json" "report.json" (some "/") } := by decide +kernel
  have apart : ∀ name ∈ strayTask.markdown,
      Disk.place bareDisk name ≠ Disk.place bareDisk strayTask.report := by decide +kernel
  have refused : ((Steps.perform (strayTask.steps Pattern.compile (Disk.host .epoch))).run bareDisk).1.1 =
      .error ["write markdown", "write text: /", "Is a directory (os error 21)"] := by decide +kernel
  have message : oneLine ["write markdown", "write text: /", "Is a directory (os error 21)"] =
      "write markdown: write text: /: Is a directory (os error 21)" := by decide +kernel
  have writable : ((writeReport (Disk.host .epoch) strayTask.report (.ofError none "" .epoch)).run
      bareDisk).1 = .ok () := by decide +kernel
  obtain ⟨-, failure⟩ :=
    code_errors_report_agree Pattern.compile (Disk.lawful_host .epoch) (t := strayTask) read rfl apart
      rfl
  obtain ⟨code, chain, log, d, r, performed, -, errors, -, verdict, findings, parsed, held⟩ :=
    failure (by decide +kernel)
  obtain ⟨_, accepted⟩ := CheckTask.accepts_of_perform (Prod.ext writable rfl) performed r
  rw [performed] at refused
  obtain rfl := Except.error.inj refused
  rw [message] at errors findings
  exact ⟨_, _, r, rfl, code, ⟨log, errors⟩, held (congrArg Prod.fst accepted), parsed, verdict,
    findings⟩

end ImportBoundary.CommandLine
