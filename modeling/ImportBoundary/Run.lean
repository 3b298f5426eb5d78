import ImportBoundary.Config
import ImportBoundary.Evaluation
import ImportBoundary.Graph
import ImportBoundary.Settings.Resolve
import ImportBoundary.Text.Basic

/-!
# A run

A run takes the texts of a configuration and of a graph to an evaluation. Whatever goes wrong on the
way is an error of the run: the first one of reading the configuration, resolving it and reading the
graph. The rules are compiled when the configuration is resolved, so the evaluation finds them in the
cache and cannot fail.

A run knows no host. It is a function of four values, and what it draws are numbers for new objects.
-/

namespace ImportBoundary

structure RunInput where
  root : Path
  /-- The configuration in TOML; blank if there is none. -/
  config : String
  /-- The graph in JSON. -/
  graph : String
  overrides : Overrides := {}

inductive RunError where
  | config (error : Config.ReadError)
  | settings (error : ConfigError)
  | graph (error : ImportGraph.ReadError)
  | rules (error : CompileError)
deriving DecidableEq, Repr

/-- What went wrong, and the causes of it, the outermost first. -/
def RunError.chain : RunError → List String
  | config e => ["parse config", e.message]
  | settings e => "resolve config" :: e.chain
  | graph e => e.chain
  | rules e => ["compile module configuration", e.summary, e.error.message]

structure RunOutput where
  resolved : Resolved
  evaluation : Evaluation

def RunInput.readConfig (i : RunInput) : Except Config.ReadError Config :=
  if Text.allBlank i.config then .ok {} else Config.parse i.config

def RunInput.run (compile : PatternCompiler) (i : RunInput) :
    Supply (Except RunError RunOutput) := do
  match i.readConfig with
  | .error e => return .error (.config e)
  | .ok config =>
    match ← config.resolve compile i.overrides with
    | .error e => return .error (.settings e)
    | .ok resolved =>
      match ImportGraph.parse i.graph with
      | .error e => return .error (.graph e)
      | .ok graph =>
        -- The rules are in the cache, so this does not fail (`resolved_evaluates`).
        let (evaluation, _) ← evaluate compile graph i.root resolved.settings resolved.cache
        match evaluation with
        | .error e => return .error (.rules e)
        | .ok evaluation => return .ok ⟨resolved, evaluation⟩

end ImportBoundary
