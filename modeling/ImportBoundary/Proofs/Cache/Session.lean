import Mathlib.Logic.Function.Basic
import ImportBoundary.Proofs.Cache.Faithful
import ImportBoundary.Settings.Profile

/-!
# Sessions with shared caches

A session is a list of steps over caches that have numbers: evaluations, each with one of the
caches, copies from one cache to another, and the clearing of a memo. All caches start empty.

Every evaluation of a session comes to what it comes to alone, with an empty cache
(`outcomes_eq_alone`). What carries the proof is that every cache stays faithful, whatever the step,
and in particular when the modules of some settings compile and their layers do not.

The rules of the settings are told apart by the numbers of their objects only. Nothing would hold if
one number stood for two lists of rules, and nothing has to be assumed beyond that (`Immutable`). Two
objects may hold equal rules; they are then compiled twice, which shows in the caches and not in the
outcomes.
-/

namespace ImportBoundary

abbrev Outcome := Except CompileError Evaluation

/-- A step of a session. -/
inductive CacheStep where
  /-- Evaluates a graph with a cache. -/
  | evaluate (slot : Nat) (g : ImportGraph) (root : Path) (s : Settings)
  /-- Puts a copy of one cache in the place of another. -/
  | copy (source target : Nat)
  /-- Clears the memo of the modules. -/
  | clearModules (slot : Nat)
  /-- Clears the memo of the layers. -/
  | clearLayers (slot : Nat)

abbrev Caches := Nat → Cache

namespace CacheStep

def perform (compile : PatternCompiler) (caches : Caches) :
    CacheStep → Supply (Option Outcome × Caches)
  | evaluate slot g root s => do
    let (outcome, cache) ← ImportBoundary.evaluate compile g root s (caches slot)
    return (some outcome, Function.update caches slot cache)
  | copy source target => return (none, Function.update caches target (caches source))
  | clearModules slot =>
    return (none, Function.update caches slot
      { caches slot with modules := (caches slot).modules.clear })
  | clearLayers slot =>
    return (none, Function.update caches slot
      { caches slot with layers := (caches slot).layers.clear })

def settings? : CacheStep → Option Settings
  | evaluate _ _ _ s => some s
  | _ => none

/-- What an evaluation comes to when it is made alone, with an empty cache. -/
def alone? (compile : PatternCompiler) : CacheStep → Option Outcome
  | evaluate _ g root s => some ((ImportBoundary.evaluate compile g root s .empty).run 0).1.1
  | _ => none

end CacheStep

/-- Takes steps one after another and gathers the outcomes. -/
def session (compile : PatternCompiler) (caches : Caches) :
    List CacheStep → Supply (List Outcome × Caches)
  | [] => return ([], caches)
  | step :: rest => do
    let (outcome, caches) ← step.perform compile caches
    let (outcomes, caches) ← session compile caches rest
    return (outcome.toList ++ outcomes, caches)

def settingsOf (steps : List CacheStep) : List Settings := steps.filterMap CacheStep.settings?

/-- The object is the list of modules of some of the settings. -/
def AreModules (settings : List Settings) (raw : Shared (List DeclaredModule)) : Prop :=
  ∃ s ∈ settings, s.modules = raw

/-- The object is the list of layers of some of the settings. -/
def AreLayers (settings : List Settings) (raw : Shared (List LayerDeclaration)) : Prop :=
  ∃ s ∈ settings, s.layers = raw

/-- The rules of the settings are immutable objects: under one number there is one list of modules,
and one list of layers. -/
structure Immutable (settings : List Settings) : Prop where
  modules : Shared.Distinguished (AreModules settings)
  layers : Shared.Distinguished (AreLayers settings)

/-- Every cache keeps only rules of the settings, with what they compile to. -/
def Caches.Faithful (compile : PatternCompiler) (settings : List Settings) (caches : Caches) :
    Prop :=
  ∀ slot, (caches slot).Faithful compile (AreModules settings) (AreLayers settings)

variable {compile : PatternCompiler} {settings : List Settings} {caches : Caches}

/-- Faithful caches stay faithful when one of them is replaced by a faithful one. -/
theorem Caches.Faithful.update (faithful : caches.Faithful compile settings) (slot : Nat)
    {cache : Cache} (h : cache.Faithful compile (AreModules settings) (AreLayers settings)) :
    Caches.Faithful compile settings (Function.update caches slot cache) := by
  intro other
  by_cases same : other = slot
  · subst same
    rw [Function.update_self]
    exact h
  · rw [Function.update_of_ne same]
    exact faithful other

/-- A step over faithful caches has the outcome that it has alone, and leaves the caches faithful. -/
theorem CacheStep.perform_spec (immutable : Immutable settings)
    (faithful : caches.Faithful compile settings) {step : CacheStep}
    (known : ∀ s ∈ step.settings?, s ∈ settings) (supply : Nat) :
    ((step.perform compile caches).run supply).1.1 = step.alone? compile ∧
      Caches.Faithful compile settings ((step.perform compile caches).run supply).1.2 := by
  cases step with
  | evaluate slot g root s =>
      have modules : AreModules settings s.modules := ⟨s, known s rfl, rfl⟩
      have layers : AreLayers settings s.layers := ⟨s, known s rfl, rfl⟩
      have serves : (caches slot).Serves compile s :=
        (faithful slot).serves immutable.modules immutable.layers modules layers
      constructor
      · show some ((ImportBoundary.evaluate compile g root s (caches slot)).run supply).1.1 =
          some ((ImportBoundary.evaluate compile g root s .empty).run 0).1.1
        rw [run_evaluate_of_serves serves, run_evaluate_of_serves (Cache.serves_empty compile s)]
      · -- An evaluation leaves the cache that resolving its settings leaves.
        exact faithful.update slot ((faithful slot).run_resolve serves modules layers supply)
  | copy source target => exact ⟨rfl, faithful.update target (faithful source)⟩
  | clearModules slot =>
      exact ⟨rfl, faithful.update slot ⟨Memo.faithful_empty _ _, (faithful slot).layers⟩⟩
  | clearLayers slot =>
      exact ⟨rfl, faithful.update slot ⟨(faithful slot).modules, Memo.faithful_empty _ _⟩⟩

/-- The outcomes of a session are that of its first step and those of the rest, which runs over the
caches that the first step leaves. -/
theorem run_session_cons (caches : Caches) (step : CacheStep) (rest : List CacheStep)
    (supply : Nat) :
    ((session compile caches (step :: rest)).run supply).1.1 =
      ((step.perform compile caches).run supply).1.1.toList ++
        ((session compile ((step.perform compile caches).run supply).1.2 rest).run
          ((step.perform compile caches).run supply).2).1.1 :=
  rfl

/-- Over faithful caches every evaluation of a session comes to what it comes to alone. -/
theorem session_spec (immutable : Immutable settings) (faithful : caches.Faithful compile settings)
    {steps : List CacheStep} (known : ∀ s ∈ settingsOf steps, s ∈ settings) (supply : Nat) :
    ((session compile caches steps).run supply).1.1 =
      steps.filterMap (CacheStep.alone? compile) := by
  -- The rest of a session runs over the caches that its first step leaves, so what is proved has to
  -- hold of all faithful caches.
  induction steps generalizing caches supply with
  | nil => rfl
  | cons step rest ih =>
      have known_step : ∀ s ∈ step.settings?, s ∈ settings := by
        intro s mem
        exact known s (List.mem_filterMap.mpr ⟨step, List.mem_cons_self, mem⟩)
      have known_rest : ∀ s ∈ settingsOf rest, s ∈ settings := by
        intro s mem
        obtain ⟨later, mem_later, has⟩ := List.mem_filterMap.mp mem
        exact known s (List.mem_filterMap.mpr ⟨later, List.mem_cons_of_mem _ mem_later, has⟩)
      obtain ⟨outcome, next_faithful⟩ := step.perform_spec immutable faithful known_step supply
      have outcomes := ih next_faithful known_rest ((step.perform compile caches).run supply).2
      rw [run_session_cons, outcome, outcomes, List.filterMap_cons]
      cases step.alone? compile <;> rfl

/-- Whatever the steps of a session are, every evaluation comes to what it comes to alone, with an
empty cache. -/
theorem outcomes_eq_alone (compile : PatternCompiler) {steps : List CacheStep}
    (immutable : Immutable (settingsOf steps)) (supply : Nat) :
    ((session compile (fun _ => .empty) steps).run supply).1.1 =
      steps.filterMap (CacheStep.alone? compile) :=
  session_spec immutable (fun _ => Cache.faithful_empty compile) (fun _ mem => mem) supply

/-- Strict settings with one module and one layer rule. The two numbers say which objects the lists
are. -/
def sampleSettings (modules layers : Nat) (target : String) : Settings where
  profile := Profile.strict.name
  failOn := Profile.strict.failOn
  maxFindings := Profile.strict.maxFindings
  policies := Profile.strict.policies
  modules := ⟨modules, [.node { path := "src/app" } []]⟩
  layers := ⟨layers, [{ target := [target] }]⟩
  bounded := []

/-- The layers of the first settings do not compile, after their modules have been kept. The last
settings have equal modules in another object. -/
def sampleSession : List CacheStep :=
  let g : ImportGraph := { records := [{ file := "src/main.ts", importText := "./app/form" }] }
  [.evaluate 0 g ⟨"."⟩ (sampleSettings 0 0 "("),
    .copy 0 1,
    .clearModules 0,
    .evaluate 0 g ⟨"."⟩ (sampleSettings 0 1 "^src/"),
    .evaluate 1 g ⟨"."⟩ (sampleSettings 2 1 "^src/")]

/-- One evaluation of the session fails to compile, and the two after it find the same private
file. -/
theorem outcomes_eq_alone_sample :
    Immutable (settingsOf sampleSession) ∧
      ((session Pattern.compile (fun _ => .empty) sampleSession).run 7).1.1.map
        (fun outcome => outcome.toOption.map Evaluation.verdict) = [none, some .fail, some .fail] := by
  have mem_iff : ∀ s, s ∈ settingsOf sampleSession ↔ s = sampleSettings 0 0 "(" ∨
      s = sampleSettings 0 1 "^src/" ∨ s = sampleSettings 2 1 "^src/" := by
    intro s
    show s ∈ [sampleSettings 0 0 "(", sampleSettings 0 1 "^src/", sampleSettings 2 1 "^src/"] ↔ _
    simp only [List.mem_cons, List.not_mem_nil, or_false]
  have immutable : Immutable (settingsOf sampleSession) := by
    constructor
    · rintro a b ⟨s, mem_s, rfl⟩ ⟨t, mem_t, rfl⟩ -
      rcases (mem_iff s).mp mem_s with rfl | rfl | rfl <;>
        rcases (mem_iff t).mp mem_t with rfl | rfl | rfl <;> rfl
    · rintro a b ⟨s, mem_s, rfl⟩ ⟨t, mem_t, rfl⟩ same
      rcases (mem_iff s).mp mem_s with rfl | rfl | rfl <;>
        rcases (mem_iff t).mp mem_t with rfl | rfl | rfl <;> first | rfl | cases same
  refine ⟨immutable, ?_⟩
  rw [outcomes_eq_alone Pattern.compile immutable]
  decide +kernel

end ImportBoundary
