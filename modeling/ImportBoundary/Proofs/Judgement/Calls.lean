import Mathlib.Computability.StateTransition
import ImportBoundary.Proofs.Edge.Cell

/-!
# The calls of the judgement

A call of the judgement answers by itself, or it makes one call on another scope and turns the answer
of that call into its own (`turn`, `complete_turn`). The other scope is the one inside the module of
the importing file, or that one with the siblings of the module behind it, and it has fewer modules,
counted at every depth: the module itself has gone (`forestSize_lt_of_calls`). Depth would not do as a
measure, because the siblings stay.

An evaluation is a run of a machine that keeps the calls that wait for an answer on a stack
(`CallState`). A step that opens a call leaves fewer modules to it, so at no time are more calls open
than there are modules in the first scope, plus one; and every run ends, with what the judgement says
(`Edge.judgement_nests`).
-/

namespace ImportBoundary

/-- What a call of the judgement does with its scope: it answers, or it calls the judgement on another
scope and makes its answer of the one that comes back. -/
inductive Turn where
  | answer (j : Judgement)
  | call (scope : Scope) (conclude : Judgement → Judgement)

/-- The turn of a call of the judgement. A module without submodules answers for itself. -/
def turn (r : Route) (scope : Scope) : Turn :=
  match locate r.source scope, locate r.target scope with
  | none, none => .answer ⟨none, none⟩
  | none, some t =>
    .answer ⟨if t.boundary.admits r then none else some t.boundary.privateImplementation, none⟩
  | some f, target =>
    if (target.map Located.place) = some f.place then
      if f.inside.isEmpty then .answer ⟨none, some f.module⟩
      else .call f.inside fun inner => ⟨inner.violation, some f.module⟩
    else if target.any fun t => !t.boundary.admits r then
      .answer ⟨target.map fun t => t.boundary.privateImplementation, some f.module⟩
    else
      let own := f.boundary.outbound (target.map Located.boundary) r
      if f.inside.isEmpty then .answer ⟨own, some f.module⟩
      else .call f.insideBeside fun inner =>
        ⟨if inner.source.isSome then inner.violation else own, some f.module⟩

/-- The answer of a turn, if calls are answered by `call`. -/
def Turn.complete (call : Scope → Judgement) : Turn → Judgement
  | answer j => j
  | .call scope conclude => conclude (call scope)

/-- A call on a scope calls the judgement on another scope. -/
def Calls (r : Route) (scope called : Scope) : Prop :=
  ∃ conclude, turn r scope = .call called conclude

variable {r : Route} {scope called : Scope}

/-- The judgement is its own turn, completed by itself. -/
theorem complete_turn (r : Route) (scope : Scope) :
    (turn r scope).complete (judge r) = judge r scope := by
  rw [judge]
  split
  · next source target =>
      rw [turn, source, target]
      rfl
  · next t source target =>
      rw [turn, source, target]
      rfl
  · next f source =>
      rw [turn, source]
      dsimp only
      by_cases common : (locate r.target scope).map Located.place = some f.place
      · rw [if_pos common, if_pos common]
        cases inside : f.inside with
        | nil =>
            rw [judge_nil]
            rfl
        | cons m rest => rfl
      · rw [if_neg common, if_neg common]
        split
        · rfl
        · split <;> rfl

/-! ## Scopes of calls

Which scopes a call can lead to is read off the two modules that `locate` finds, and both scopes are
made of the parts into which `locate` takes the scope apart. The module of the importing file is in
neither of them. What is nested in it was counted with it before, and its siblings were counted beside
it, so nothing is counted that was not there.
-/

/-- The two ways to call: inside a module that holds both ends, and inside the module of the importing
file and beside it, if the destination's module does not object. -/
theorem calls_iff : Calls r scope called ↔ ∃ f, locate r.source scope = some f ∧ f.inside ≠ [] ∧
    ((∃ t, locate r.target scope = some t ∧ t.place = f.place) ∧ called = f.inside ∨
      (∀ t, locate r.target scope = some t → t.place ≠ f.place ∧ t.boundary.admits r) ∧
        called = f.insideBeside) := by
  unfold Calls turn
  -- The turn is a call in two of its branches. The others have an answer, which is no call.
  cases source : locate r.source scope with
  | none => cases locate r.target scope <;> simp
  | some f =>
      cases locate r.target scope with
      | none =>
          by_cases leaf : f.inside = []
          · simp [leaf]
          · simpa [leaf] using eq_comm
      | some t =>
          by_cases same : t.place = f.place
          · by_cases leaf : f.inside = []
            · simp [same, leaf]
            · simpa [same, leaf] using eq_comm
          · cases admitted : t.boundary.admits r with
            | false => simp [same, admitted]
            | true =>
                by_cases leaf : f.inside = []
                · simp [same, admitted, leaf]
                · simpa [same, admitted, leaf] using eq_comm

theorem Tree.forestSize_le_of_sublist {α : Type} {forest forest' : List (Tree α)}
    (h : forest.Sublist forest') : Tree.forestSize forest ≤ Tree.forestSize forest' := by
  induction h with
  | slnil => exact Nat.le_refl _
  | cons t _ ih =>
      rw [forestSize_cons]
      omega
  | cons_cons t _ ih =>
      rw [forestSize_cons, forestSize_cons]
      omega

/-- The scope inside a module is smaller than the scope of the module, with any of its siblings
behind it. -/
theorem Located.forestSize_inside_append_lt (l : Located) {kept : Scope}
    (h : kept.Sublist (l.before ++ l.after)) :
    Tree.forestSize (l.inside ++ kept) < Tree.forestSize l.scope := by
  have fewer := Tree.forestSize_le_of_sublist h
  have all := l.forestSize_insideBeside_lt
  rw [insideBeside, List.append_assoc, Tree.forestSize_append] at all
  rw [inside, Tree.forestSize_append]
  omega

/-- The scope of a call has fewer modules than the scope from which the call is made. -/
theorem forestSize_lt_of_calls (calls : Calls r scope called) :
    Tree.forestSize called < Tree.forestSize scope := by
  obtain ⟨f, source, -, ⟨-, rfl⟩ | ⟨-, rfl⟩⟩ := calls_iff.mp calls
  · exact scope_of_locate source ▸ f.forestSize_inside_lt
  · exact scope_of_locate source ▸ f.forestSize_insideBeside_lt

/-! ## Runs

The recursion of `judge` is turned inside out here, in order to count calls that are open at the same
time. A step of the machine is a turn of the innermost call, or the return of an answer to the call
that waits for it. Three facts about one step carry everything about a run: what the outermost call
comes to stays the same (`outcome_eq_of_step`), the open calls and the modules that are left are
bounded by what they were, taken together (`openCalls_of_step`), and there is a next step until the
outermost call has its answer (`eq_answered_of_next_eq_none`).
-/

/-- A state of an evaluation. The calls that wait for an answer stand in `waiting`, the innermost one
first, each with what it makes of the answer. -/
inductive CallState where
  /-- A call begins with its scope. -/
  | judging (scope : Scope) (waiting : List (Judgement → Judgement))
  /-- A call has come to an answer. -/
  | answered (j : Judgement) (waiting : List (Judgement → Judgement))

namespace CallState

/-- One step: the innermost call takes its turn, or the one that waits for it goes on. -/
def next (r : Route) : CallState → Option CallState
  | judging scope waiting =>
    match turn r scope with
    | .answer j => some (answered j waiting)
    | .call called conclude => some (judging called (conclude :: waiting))
  | answered j (conclude :: waiting) => some (answered (conclude j) waiting)
  | answered _ [] => none

/-- The number of calls that have begun and not come back. -/
def openCalls : CallState → Nat
  | judging _ waiting => waiting.length + 1
  | answered _ waiting => waiting.length

/-- The number of modules, at every depth, that are left to a call that begins. -/
def modulesLeft : CallState → Nat
  | judging scope _ => Tree.forestSize scope
  | answered _ _ => 0

/-- What the outermost call comes to. -/
def outcome (r : Route) : CallState → Judgement
  | judging scope waiting => waiting.foldl (fun j conclude => conclude j) (judge r scope)
  | answered j waiting => waiting.foldl (fun j conclude => conclude j) j

variable {s t : CallState}

/-- What can happen in a step: the innermost call answers, the innermost call makes another one, or
the call that waits makes its answer of the one that has come back. -/
inductive Step (r : Route) : CallState → CallState → Prop
  | answer {scope : Scope} {waiting : List (Judgement → Judgement)} {j : Judgement} :
      turn r scope = .answer j → Step r (judging scope waiting) (answered j waiting)
  | call {scope called : Scope} {waiting : List (Judgement → Judgement)}
      {conclude : Judgement → Judgement} :
      turn r scope = .call called conclude →
        Step r (judging scope waiting) (judging called (conclude :: waiting))
  | conclude {waiting : List (Judgement → Judgement)} {conclude : Judgement → Judgement}
      {j : Judgement} : Step r (answered j (conclude :: waiting)) (answered (conclude j) waiting)

theorem step_of_next (h : s.next r = some t) : Step r s t := by
  cases s with
  | judging scope waiting =>
      unfold next at h
      dsimp only at h
      split at h
      · next j turned =>
          cases h
          exact .answer turned
      · next called conclude turned =>
          cases h
          exact .call turned
  | answered j waiting =>
      cases waiting with
      | nil => cases h
      | cons conclude waiting =>
          cases h
          exact .conclude

/-- A step does not change what the outermost call comes to. -/
theorem outcome_eq_of_step (step : Step r s t) : t.outcome r = s.outcome r := by
  cases step with
  | @answer scope waiting j turned =>
      rw [outcome, outcome, ← complete_turn r scope, turned]
      rfl
  | @call scope called waiting conclude turned =>
      rw [outcome, outcome, ← complete_turn r scope, turned]
      rfl
  | conclude => rfl

/-- A step closes a call and leaves no more modules than before, or it opens one and leaves fewer. -/
theorem openCalls_of_step (step : Step r s t) :
    s.openCalls = t.openCalls + 1 ∧ t.modulesLeft ≤ s.modulesLeft ∨
      t.openCalls = s.openCalls + 1 ∧ t.modulesLeft < s.modulesLeft := by
  cases step with
  | answer _ => exact .inl ⟨rfl, Nat.zero_le _⟩
  | call turned => exact .inr ⟨rfl, forestSize_lt_of_calls ⟨_, turned⟩⟩
  | conclude => exact .inl ⟨rfl, Nat.le_refl _⟩

/-- A run stops only when the outermost call has come to its answer. -/
theorem eq_answered_of_next_eq_none (h : s.next r = none) : s = answered (s.outcome r) [] := by
  cases s with
  | judging scope waiting =>
      unfold next at h
      dsimp only at h
      split at h <;> cases h
  | answered j waiting =>
      cases waiting with
      | nil => rfl
      | cons conclude waiting => cases h

/-- Every run ends, and with what the outermost call comes to. -/
theorem reaches_outcome (r : Route) (s : CallState) :
    StateTransition.Reaches (next r) s (answered (s.outcome r) []) := by
  -- The modules that are left count twice, since a call that is opened takes two steps.
  induction rest : 2 * s.modulesLeft + s.openCalls using Nat.strongRecOn generalizing s with
  | ind n ih =>
      subst rest
      cases next : s.next r with
      | none =>
          rw [← eq_answered_of_next_eq_none next]
          exact .refl
      | some t =>
          have step := step_of_next next
          have fewer : 2 * t.modulesLeft + t.openCalls < 2 * s.modulesLeft + s.openCalls := by
            have counts := openCalls_of_step step
            omega
          have ends := ih _ fewer t rfl
          rw [outcome_eq_of_step step] at ends
          exact .head next ends

/-- On a run the open calls and the modules that are left never get more, taken together. -/
theorem openCalls_add_modulesLeft_le (reaches : StateTransition.Reaches (next r) s t) :
    t.openCalls + t.modulesLeft ≤ s.openCalls + s.modulesLeft := by
  induction reaches with
  | refl => exact Nat.le_refl _
  | tail _ next ih =>
      have counts := openCalls_of_step (step_of_next next)
      omega

end CallState

/-- In any scope, whose modules may overlap, stand there repeatedly or lie anywhere, the judgement
calls itself in just two cases: inside the module that holds both ends, or inside the module of the
importing file with the siblings behind it. Either scope has fewer modules, counted at every depth;
so it would with some of the siblings left out, as when a module that stands there twice is taken out
twice. Therefore the evaluation of an edge ends, with what the judgement says, and at no time are more
calls open than there are modules in the scope, plus one. -/
theorem Edge.judgement_nests (e : Edge) (scope : Scope) :
    (∀ called, Calls e.route scope called ↔
      ∃ f, locate e.source scope = some f ∧ f.inside ≠ [] ∧
        ((∃ t, locate e.target scope = some t ∧ t.place = f.place) ∧ called = f.inside ∨
          (∀ t, locate e.target scope = some t → t.place ≠ f.place ∧ t.boundary.admits e.route) ∧
            called = f.insideBeside)) ∧
    (∀ called, Calls e.route scope called → Tree.forestSize called < Tree.forestSize scope) ∧
    (∀ f kept, locate e.source scope = some f → kept.Sublist (f.before ++ f.after) →
      Tree.forestSize (f.inside ++ kept) < Tree.forestSize scope) ∧
    ∃ j, e.Yields (e.judge scope) j ∧
      .answered j [] ∈ StateTransition.eval (CallState.next e.route) (.judging scope []) ∧
      ∀ s, StateTransition.Reaches (CallState.next e.route) (.judging scope []) s →
        s.openCalls ≤ Tree.forestSize scope + 1 := by
  refine ⟨fun called => calls_iff, fun called => forestSize_lt_of_calls, ?_,
    ImportBoundary.judge e.route scope, e.yields_judge scope, ?_, ?_⟩
  · intro f kept source sublist
    exact scope_of_locate source ▸ f.forestSize_inside_append_lt sublist
  · exact StateTransition.mem_eval.mpr
      ⟨CallState.reaches_outcome e.route (.judging scope []), rfl⟩
  · intro s reaches
    have budget := CallState.openCalls_add_modulesLeft_le reaches
    simp only [CallState.openCalls, CallState.modulesLeft, List.length_nil] at budget ⊢
    omega

end ImportBoundary
