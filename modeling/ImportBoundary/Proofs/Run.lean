import ImportBoundary.Proofs.Cache.Seeded
import ImportBoundary.Run

/-!
# What a run comes to

A run reads its configuration, resolves it, reads its graph and evaluates it. Each of the first three
steps may fail, and the first one that fails decides (`RunInput.ComesTo`). The evaluation does not: the
rules were compiled when the configuration was resolved, and the cache that came with it supplies them
(`resolved_evaluates`).
-/

namespace ImportBoundary

/-! ## Reading the inputs

When the two texts of a run cannot be read, said without the readers' own errors.
-/

/-- A configuration cannot be read exactly if it is not blank and does not parse. -/
theorem RunInput.readConfig_eq_error_iff {i : RunInput} {e : Config.ReadError} :
    i.readConfig = .error e ↔ Text.allBlank i.config = false ∧ Config.parse i.config = .error e := by
  unfold readConfig
  cases Text.allBlank i.config <;> simp

/-- A graph cannot be read exactly if it is malformed or names a foreign schema. -/
theorem ImportGraph.parse_eq_error_iff {text : String} {e : ImportGraph.ReadError} :
    ImportGraph.parse text = .error e ↔
      (decode.parse? text = none ∧ e = .notGraph) ∨
      ∃ g schema, decode.parse? text = some g ∧ g.schema = some schema ∧ schema ≠ schemaName ∧
        e = .foreignSchema schema := by
  unfold ImportGraph.parse
  cases decode.parse? text with
  | none => simp [eq_comm]
  | some g =>
      cases named : g.schema with
      | none => simp [named]
      | some schema =>
          by_cases known : schema = schemaName
          · simp [named, known]
          · simp [named, known, eq_comm]

/-! ## The outcomes of a run

`RunInput.ComesTo` has one constructor for each way to end. That there are no others is shown by
following the steps of the run; that a run has only one outcome, by cases on two of them.
-/

namespace RunInput

variable {compile : PatternCompiler} {i : RunInput} {supply : Nat} {c : Config} {resolved : Resolved}

/-- The outcomes of a run. There is none in which the rules do not compile at the end. -/
inductive ComesTo (compile : PatternCompiler) (i : RunInput) (supply : Nat) :
    Except RunError RunOutput → Prop
  /-- The configuration does not parse. -/
  | unparsed {e : Config.ReadError} : Text.allBlank i.config = false →
      Config.parse i.config = .error e → ComesTo compile i supply (.error (.config e))
  /-- The configuration does not resolve. -/
  | unresolved {c : Config} {e : ConfigError} : i.readConfig = .ok c →
      ((c.resolve compile i.overrides).run supply).1 = .error e →
      ComesTo compile i supply (.error (.settings e))
  /-- The graph is malformed. -/
  | malformed {c : Config} {resolved : Resolved} : i.readConfig = .ok c →
      ((c.resolve compile i.overrides).run supply).1 = .ok resolved →
      ImportGraph.decode.parse? i.graph = none →
      ComesTo compile i supply (.error (.graph .notGraph))
  /-- The graph names a foreign schema. -/
  | foreign {c : Config} {resolved : Resolved} {g : ImportGraph} {schema : String} :
      i.readConfig = .ok c → ((c.resolve compile i.overrides).run supply).1 = .ok resolved →
      ImportGraph.decode.parse? i.graph = some g → g.schema = some schema →
      schema ≠ ImportGraph.schemaName →
      ComesTo compile i supply (.error (.graph (.foreignSchema schema)))
  /-- The graph is evaluated under the rules to which the settings compile. -/
  | evaluated {c : Config} {resolved : Resolved} {g : ImportGraph} {rules : CompiledRules} :
      i.readConfig = .ok c → ((c.resolve compile i.overrides).run supply).1 = .ok resolved →
      ImportGraph.parse i.graph = .ok g →
      CompiledRules.ofSettings compile resolved.settings = .ok rules →
      ComesTo compile i supply (.ok ⟨resolved, evaluateWith resolved.settings rules i.root g⟩)

theorem run_of_unread {e : Config.ReadError} (unread : i.readConfig = .error e) :
    ((i.run compile).run supply).1 = .error (.config e) := by
  unfold run
  rw [unread]
  rfl

theorem run_of_unresolved {e : ConfigError} (read : i.readConfig = .ok c)
    (unresolved : ((c.resolve compile i.overrides).run supply).1 = .error e) :
    ((i.run compile).run supply).1 = .error (.settings e) := by
  unfold run
  rw [read]
  dsimp only
  rw [Supply.run_bind, unresolved]
  rfl

theorem run_of_unread_graph {e : ImportGraph.ReadError} (read : i.readConfig = .ok c)
    (ok : ((c.resolve compile i.overrides).run supply).1 = .ok resolved)
    (unread : ImportGraph.parse i.graph = .error e) :
    ((i.run compile).run supply).1 = .error (.graph e) := by
  unfold run
  rw [read]
  dsimp only
  rw [Supply.run_bind, ok]
  dsimp only
  rw [unread]
  rfl

/-- The evaluation of a run does not fail. -/
theorem run_of_read {g : ImportGraph} {rules : CompiledRules} (read : i.readConfig = .ok c)
    (ok : ((c.resolve compile i.overrides).run supply).1 = .ok resolved)
    (read_graph : ImportGraph.parse i.graph = .ok g)
    (supplies : resolved.cache.Supplies resolved.settings rules) :
    ((i.run compile).run supply).1 =
      .ok ⟨resolved, evaluateWith resolved.settings rules i.root g⟩ := by
  unfold run
  rw [read]
  dsimp only
  rw [Supply.run_bind, ok]
  dsimp only
  rw [read_graph]
  dsimp only
  rw [evaluate_of_supplies supplies]
  rfl

/-- A run comes to one of the outcomes. -/
theorem comesTo_run (compile : PatternCompiler) (i : RunInput) (supply : Nat) :
    i.ComesTo compile supply ((i.run compile).run supply).1 := by
  cases read : i.readConfig with
  | error e =>
      rw [run_of_unread read]
      obtain ⟨written, unparsed⟩ := readConfig_eq_error_iff.mp read
      exact .unparsed written unparsed
  | ok c =>
      cases outcome : ((c.resolve compile i.overrides).run supply).1 with
      | error e =>
          rw [run_of_unresolved read outcome]
          exact .unresolved read outcome
      | ok resolved =>
          cases graph : ImportGraph.parse i.graph with
          | error e =>
              rw [run_of_unread_graph read outcome graph]
              rcases ImportGraph.parse_eq_error_iff.mp graph with
                ⟨malformed, rfl⟩ | ⟨g, schema, parsed, named, foreign, rfl⟩
              · exact .malformed read outcome malformed
              · exact .foreign read outcome parsed named foreign
          | ok g =>
              obtain ⟨rules, compiled, supplies⟩ := Config.supplies_of_resolve outcome
              rw [run_of_read read outcome graph supplies]
              exact .evaluated read outcome graph compiled

/-- What a run comes to is decided by its inputs. -/
theorem ComesTo.run_eq {outcome : Except RunError RunOutput}
    (h : i.ComesTo compile supply outcome) : ((i.run compile).run supply).1 = outcome := by
  cases h with
  | unparsed written unparsed => exact run_of_unread (readConfig_eq_error_iff.mpr ⟨written, unparsed⟩)
  | unresolved read unresolved => exact run_of_unresolved read unresolved
  | malformed read ok malformed =>
      exact run_of_unread_graph read ok
        (ImportGraph.parse_eq_error_iff.mpr (Or.inl ⟨malformed, rfl⟩))
  | foreign read ok parsed named foreign =>
      exact run_of_unread_graph read ok
        (ImportGraph.parse_eq_error_iff.mpr (Or.inr ⟨_, _, parsed, named, foreign, rfl⟩))
  | evaluated read ok read_graph compiled =>
      -- The rules that the cache supplies are the ones to which the settings compile.
      obtain ⟨rules, compiled', supplies⟩ := Config.supplies_of_resolve ok
      rw [compiled] at compiled'
      cases compiled'
      exact run_of_read read ok read_graph supplies

/-- No run fails because of rules that do not compile. -/
theorem ComesTo.head?_chain_ne {e : RunError} (h : i.ComesTo compile supply (.error e)) :
    e.chain.head? ≠ some "compile module configuration" := by
  cases h with
  | unparsed => simp [RunError.chain]
  | unresolved => simp [RunError.chain]
  | malformed => simp [RunError.chain, ImportGraph.ReadError.chain]
  | @foreign _ _ _ schema =>
      intro same
      have texts := congrArg String.toList (Option.some.inj same)
      simp at texts

end RunInput

/-- Whenever a configuration resolves, evaluations with the cache that comes with it ask no compiler, do
not fail, and come to what they come to with an empty cache. So a run fails exactly if its configuration
does not parse or does not resolve, or its graph is malformed or names a foreign schema. -/
theorem resolved_evaluates (compile : PatternCompiler) :
    (∀ (c : Config) (o : Overrides) (supply : Nat) (resolved : Resolved),
      ((c.resolve compile o).run supply).1 = .ok resolved →
        ∃ rules, resolved.cache.Supplies resolved.settings rules ∧
          ∀ (g : ImportGraph) (root : Path),
            (∀ anyCompiler, evaluate anyCompiler g root resolved.settings resolved.cache =
              pure (.ok (evaluateWith resolved.settings rules root g), resolved.cache)) ∧
            ∀ later, ((evaluate compile g root resolved.settings .empty).run later).1.1 =
              .ok (evaluateWith resolved.settings rules root g)) ∧
    ∀ (i : RunInput) (supply : Nat),
      (∀ outcome, ((i.run compile).run supply).1 = outcome ↔ i.ComesTo compile supply outcome) ∧
      ∀ e, ((i.run compile).run supply).1 = .error e →
        e.chain.head? ≠ some "compile module configuration" := by
  refine ⟨?_, fun i supply => ⟨fun outcome => ⟨?_, RunInput.ComesTo.run_eq⟩, ?_⟩⟩
  · intro c o supply resolved h
    obtain ⟨rules, compiled, supplies⟩ := Config.supplies_of_resolve h
    refine ⟨rules, supplies, fun g root => ⟨fun anyCompiler => ?_, fun later => ?_⟩⟩
    · exact evaluate_of_supplies supplies anyCompiler g root
    · rw [run_evaluate_of_serves (Cache.serves_empty compile resolved.settings), compiled]
      rfl
  · rintro rfl
    exact i.comesTo_run compile supply
  · intro e failed
    have comes := i.comesTo_run compile supply
    rw [failed] at comes
    exact comes.head?_chain_ne

/-- A configuration with one module, which publishes nothing, and one layer. -/
def guardedConfig : Config where
  modules := [.node { path := "src/a" } []]
  layers := [{ source := some "src/ui", target := ["^src/"] }]

/-- One import, which leads into the module. -/
def guardedGraph : ImportGraph where
  records := [{ file := "src/main.ts", importText := "./a/x" }]

/-- A run without a configuration, over a graph that breaks off. -/
def brokenRun : RunInput where
  root := ⟨"."⟩
  config := ""
  graph := "\x7b"

/-- The rules of the configuration are supplied, and a compiler that refuses every pattern does not keep
the evaluation from its verdict. The run over the broken graph fails because of the graph. -/
theorem resolved_evaluates_guarded :
    (∃ resolved, ((guardedConfig.resolve Pattern.compile {}).run 5).1 = .ok resolved ∧
      ∃ evaluation : Evaluation, evaluation.verdict = .fail ∧
        evaluate (fun source => .error ⟨source, .unclosedGroup⟩) guardedGraph ⟨"."⟩ resolved.settings
          resolved.cache = pure (.ok evaluation, resolved.cache)) ∧
    ∃ e, ((brokenRun.run Pattern.compile).run 0).1 = .error e ∧ e = .graph .notGraph ∧
      e.chain.head? ≠ some "compile module configuration" := by
  obtain ⟨evaluates, runs⟩ := resolved_evaluates Pattern.compile
  constructor
  · -- What the empty cache leads to is evaluated; the supplied rules lead to the same verdict.
    have fails : ((guardedConfig.resolve Pattern.compile {}).run 5).1.toOption.map (fun resolved =>
        ((evaluate Pattern.compile guardedGraph ⟨"."⟩ resolved.settings .empty).run 0).1.1.toOption.map
          Evaluation.verdict) = some (some .fail) := by decide +kernel
    cases outcome : ((guardedConfig.resolve Pattern.compile {}).run 5).1 with
    | error e =>
        rw [outcome] at fails
        cases fails
    | ok resolved =>
        obtain ⟨rules, -, evaluations⟩ := evaluates _ _ _ _ outcome
        obtain ⟨kept, fresh⟩ := evaluations guardedGraph ⟨"."⟩
        rw [outcome, Except.toOption, Option.map_some, fresh 0] at fails
        exact ⟨resolved, rfl, _, Option.some.inj (Option.some.inj fails), kept _⟩
  · have resolves : ((({} : Config).resolve Pattern.compile {}).run 0).1.isOk := by decide +kernel
    have malformed : ImportGraph.decode.parse? brokenRun.graph = none := by decide +kernel
    cases outcome : ((({} : Config).resolve Pattern.compile {}).run 0).1 with
    | error e => simp [outcome, Except.isOk, Except.toBool] at resolves
    | ok resolved =>
        obtain ⟨comes, context⟩ := runs brokenRun 0
        have failed := (comes _).mpr (.malformed rfl outcome malformed)
        exact ⟨_, failed, rfl, context _ failed⟩

end ImportBoundary
