import Mathlib.Logic.Function.Basic
import ImportBoundary.Proofs.Cache.Faithful

/-!
# What a memo remembers of its history

Memos have numbers. They are asked for objects, copied from one number to another, so that a copy can
be kept aside and taken back, and cleared. A copy takes over the history of what it was copied from. A
memo remembers the last object that compiled since it was cleared: it hands out what that object was
compiled to and compiles every other one into a new object (`Answer.Accords`). This holds of every
answer in every sequence of steps (`answers_accord`).

What carries the proof is that every memo looks up what the last success in its history is
(`Tracks.remembers`), and that nobody has made that object but an earlier compilation
(`Tracks.made`).
-/

namespace ImportBoundary.Memo

variable {ρ σ ε : Type}

/-! ## Steps and what they leave on record

A step is played against the memos, and an event is what can be said about it afterwards. The record is
made by the steps alone, so that it can be compared with what the memos keep.
-/

/-- Compiles into a new object. A log tells what was compiled. -/
def logged (compile : ρ → Except ε σ) (raw : ρ) : StateT (List ρ) Supply (Except ε (Shared σ)) := do
  modify (· ++ [raw])
  Cache.compileShared compile raw

/-- A step with memos that have numbers. -/
inductive Step (ρ : Type) where
  /-- Asks a memo for an object. -/
  | resolve (slot : Nat) (raw : Shared ρ)
  /-- Puts a copy of one memo in the place of another. -/
  | copy (source target : Nat)
  | clear (slot : Nat)

/-- What a memo was asked for, what it answered, and what it had to compile for that. -/
structure Answer (ρ σ ε : Type) where
  raw : Shared ρ
  outcome : Except ε (Shared σ)
  compiled : List ρ

/-- What is on record of a step. -/
inductive Event (ρ σ ε : Type) where
  | answered (slot : Nat) (a : Answer ρ σ ε)
  | copied (source target : Nat)
  | cleared (slot : Nat)

def Event.step : Event ρ σ ε → Step ρ
  | answered slot a => .resolve slot a.raw
  | copied source target => .copy source target
  | cleared slot => .clear slot

abbrev Slots (ρ σ : Type) := Nat → Memo ρ (Shared σ)

def Step.perform (compile : ρ → Except ε σ) (memos : Slots ρ σ) :
    Step ρ → Supply (Event ρ σ ε × Slots ρ σ)
  | resolve slot raw => do
    let ((outcome, memo), compiled) ← ((memos slot).resolve (logged compile) raw).run []
    return (.answered slot ⟨raw, outcome, compiled⟩, Function.update memos slot memo)
  | copy source target =>
    return (.copied source target, Function.update memos target (memos source))
  | clear slot => return (.cleared slot, Function.update memos slot (memos slot).clear)

/-- Takes steps one after another and puts them on record. -/
def play (compile : ρ → Except ε σ) (memos : Slots ρ σ) :
    List (Step ρ) → Supply (List (Event ρ σ ε) × Slots ρ σ)
  | [] => return ([], memos)
  | step :: rest => do
    let (event, memos) ← step.perform compile memos
    let (events, memos) ← play compile memos rest
    return (event :: events, memos)

/-! ## Histories

The history of a memo is read off the record. It grows by the answers that the memo gives and by being
cleared; to be the target of a copy replaces it.
-/

/-- What has happened to a memo, the latest first: it gave an answer, or it was cleared (`none`). -/
abbrev History (ρ σ ε : Type) := List (Option (Answer ρ σ ε))

/-- The last success since the memo was cleared: the object that was asked for, and the object that was
handed out. -/
def History.lastSuccess? : History ρ σ ε → Option (Shared ρ × Shared σ)
  | [] => none
  | none :: _ => none
  | some a :: older =>
    match a.outcome with
    | .ok tree => some (a.raw, tree)
    | .error _ => lastSuccess? older

/-- The histories after one more event. A copy takes over the history of its source. -/
def Event.continue (histories : Nat → History ρ σ ε) : Event ρ σ ε → Nat → History ρ σ ε
  | answered slot a => Function.update histories slot (some a :: histories slot)
  | copied source target => Function.update histories target (histories source)
  | cleared slot => Function.update histories slot (none :: histories slot)

/-- The histories of the memos after some events. -/
def historiesOf (events : List (Event ρ σ ε)) : Nat → History ρ σ ε :=
  events.foldl Event.continue fun _ => []

/-- An answer accords with the history of the memo that gives it and with all that happened before. -/
inductive Answer.Accords (compile : ρ → Except ε σ) (earlier : List (Event ρ σ ε))
    (history : History ρ σ ε) (a : Answer ρ σ ε) : Prop
  /-- The last success was about this very object. The memo compiles nothing and hands out what was made
  when the object was compiled. -/
  | kept {key : Shared ρ} {tree : Shared σ} {slot : Nat} {first : Answer ρ σ ε} :
      history.lastSuccess? = some (key, tree) → key.id = a.raw.id → a.compiled = [] →
      a.outcome = .ok tree → .answered slot first ∈ earlier → first.raw.id = a.raw.id →
      first.compiled = [first.raw.value] → first.outcome = .ok tree → Accords compile earlier history a
  /-- The last success, if there is one, was about another object. The memo compiles the object into a new
  one, which has not been handed out before. -/
  | made {tree : Shared σ} :
      (∀ key tree, history.lastSuccess? = some (key, tree) → key.id ≠ a.raw.id) →
      a.compiled = [a.raw.value] → a.outcome = .ok tree →
      (∀ slot before older, .answered slot before ∈ earlier → before.outcome = .ok older →
        older.id ≠ tree.id) → Accords compile earlier history a
  /-- The object is another one and does not compile. -/
  | failed {e : ε} : (∀ key tree, history.lastSuccess? = some (key, tree) → key.id ≠ a.raw.id) →
      a.compiled = [a.raw.value] → a.outcome = .error e → Accords compile earlier history a

/-! ## One request

What one request does to one memo, by the three ways in which it can go: the object is kept, it
compiles, or it does not compile.
-/

section

variable {compile : ρ → Except ε σ} {raw : Shared ρ} {memo : Memo ρ (Shared σ)}

theorem run_resolve_of_kept {tree : Shared σ} (kept : memo.lookup? raw = some tree) (supply : Nat) :
    ((memo.resolve (logged compile) raw).run []).run supply = (((.ok tree, memo), []), supply) := by
  unfold resolve
  rw [kept]
  rfl

theorem run_resolve_of_made {value : σ} (missing : memo.lookup? raw = none)
    (compiles : compile raw.value = .ok value) (supply : Nat) :
    ((memo.resolve (logged compile) raw).run []).run supply =
      (((.ok ⟨supply, value⟩, ⟨some (raw, ⟨supply, value⟩)⟩), [raw.value]), supply + 1) := by
  unfold resolve logged Cache.compileShared
  rw [missing, compiles]
  rfl

theorem run_resolve_of_failed {e : ε} (missing : memo.lookup? raw = none)
    (fails : compile raw.value = .error e) (supply : Nat) :
    ((memo.resolve (logged compile) raw).run []).run supply =
      (((.error e, memo), [raw.value]), supply) := by
  unfold resolve logged Cache.compileShared
  rw [missing, fails]
  rfl

/-- A request that fails leaves the memo as it was. -/
theorem eq_of_run_resolve_error {e : ε} {after : Memo ρ (Shared σ)} {supply : Nat}
    (failed : (((memo.resolve (logged compile) raw).run []).run supply).1.1 = (.error e, after)) :
    after = memo := by
  cases found : memo.lookup? raw with
  | some tree =>
      rw [run_resolve_of_kept found] at failed
      cases failed
  | none =>
      cases outcome : compile raw.value with
      | ok value =>
          rw [run_resolve_of_made found outcome] at failed
          cases failed
      | error e =>
          rw [run_resolve_of_failed found outcome] at failed
          cases failed
          rfl

/-- What a memo looks up depends on the number of the object it keeps. -/
theorem lookup?_eq_of_kept {tree : Shared σ} (kept : memo.lookup? raw = some tree) (other : Shared ρ) :
    memo.lookup? other = (⟨some (raw, tree)⟩ : Memo ρ (Shared σ)).lookup? other := by
  obtain ⟨key, entry, same⟩ := exists_entry_of_lookup? kept
  unfold lookup?
  rw [entry]
  simp only [same]

/-- A memo that keeps an object looks nothing else up. -/
theorem lookup?_eq_none_iff {entry : Option (Shared ρ × Shared σ)} :
    (⟨entry⟩ : Memo ρ (Shared σ)).lookup? raw = none ↔
      ∀ key tree, entry = some (key, tree) → key.id ≠ raw.id := by
  unfold lookup?
  cases entry with
  | none => simp
  | some pair =>
      obtain ⟨key, tree⟩ := pair
      simp

end

/-! ## What a step preserves

`Tracks` ties the memos to the record. An event touches one memo and one history, and everything that
was said about the others before still holds (`Tracks.concat`); what is left to show for an answer is
that it accords with what happened before (`Tracks.answer`).
-/

theorem historiesOf_concat (events : List (Event ρ σ ε)) (event : Event ρ σ ε) :
    historiesOf (events ++ [event]) = event.continue (historiesOf events) := by
  simp [historiesOf]

/-- What holds of every element after those before it holds after one more element as well. -/
theorem forall_split_concat {α : Type} {P : List α → α → Prop} {xs : List α} {last : α}
    (old : ∀ earlier x later, xs = earlier ++ x :: later → P earlier x) (new : P xs last) :
    ∀ earlier x later, xs ++ [last] = earlier ++ x :: later → P earlier x := by
  intro earlier x later split
  rcases List.eq_nil_or_concat later with rfl | ⟨later, last', rfl⟩
  · obtain ⟨rfl, same⟩ := List.append_inj' split rfl
    cases same
    exact new
  · rw [List.concat_eq_append, ← List.cons_append, ← List.append_assoc] at split
    exact old earlier x later (List.append_inj' split rfl).1

variable {compile : ρ → Except ε σ} {known : Shared ρ → Prop} {events : List (Event ρ σ ε)}
  {memos : Slots ρ σ} {supply : Nat}

/-- The second object was made when the first one was compiled, which the events tell. -/
structure Origin (compile : ρ → Except ε σ) (events : List (Event ρ σ ε)) (key : Shared ρ)
    (tree : Shared σ) : Prop where
  compiles : compile key.value = .ok tree.value
  told : ∃ slot first, .answered slot first ∈ events ∧ first.raw.id = key.id ∧
    first.compiled = [first.raw.value] ∧ first.outcome = .ok tree

theorem Origin.append {key : Shared ρ} {tree : Shared σ} (origin : Origin compile events key tree)
    (more : List (Event ρ σ ε)) : Origin compile (events ++ more) key tree := by
  obtain ⟨slot, first, mem, rest⟩ := origin.told
  exact ⟨origin.compiles, slot, first, List.mem_append_left _ mem, rest⟩

/-- The memos and the next number of an object go with what is on record. The known objects are those
that memos are asked for. -/
structure Tracks (compile : ρ → Except ε σ) (known : Shared ρ → Prop) (events : List (Event ρ σ ε))
    (memos : Slots ρ σ) (supply : Nat) : Prop where
  /-- A memo looks up what the last success in its history is. -/
  remembers : ∀ slot raw, (memos slot).lookup? raw =
    (⟨(historiesOf events slot).lastSuccess?⟩ : Memo ρ (Shared σ)).lookup? raw
  /-- The last success in a history is about a known object and goes back to its compilation. -/
  made : ∀ slot key tree, (historiesOf events slot).lastSuccess? = some (key, tree) →
    known key ∧ Origin compile events key tree
  /-- Objects that were handed out have numbers that have been drawn. -/
  drawn : ∀ slot a tree, .answered slot a ∈ events → a.outcome = .ok tree → tree.id < supply
  /-- Every answer accords with what happened before. -/
  accord : ∀ earlier event later, events = earlier ++ event :: later →
    ∀ slot a, event = .answered slot a → a.outcome.map Shared.value = compile a.raw.value ∧
      a.Accords compile earlier (historiesOf earlier slot)

namespace Tracks

theorem empty (compile : ρ → Except ε σ) (known : Shared ρ → Prop) (supply : Nat) :
    Tracks compile known [] (fun _ => .empty) supply where
  remembers _ _ := rfl
  made _ _ _ found := by cases found
  drawn _ _ _ mem := by cases mem
  accord earlier _ _ split := by cases earlier <;> cases split

/-- An event changes one memo and its history. If they still go together and the event accords with what
happened before, everything else stays in step. -/
theorem concat (tracks : Tracks compile known events memos supply) {event : Event ρ σ ε}
    {slot next : Nat} {memo : Memo ρ (Shared σ)} {history : History ρ σ ε}
    (continues : event.continue (historiesOf events) =
      Function.update (historiesOf events) slot history)
    (le : supply ≤ next)
    (remembers : ∀ raw, memo.lookup? raw =
      (⟨history.lastSuccess?⟩ : Memo ρ (Shared σ)).lookup? raw)
    (made : ∀ key tree, history.lastSuccess? = some (key, tree) →
      known key ∧ Origin compile (events ++ [event]) key tree)
    (accord : ∀ slot a, event = .answered slot a → (∀ tree, a.outcome = .ok tree → tree.id < next) ∧
      a.outcome.map Shared.value = compile a.raw.value ∧
        a.Accords compile events (historiesOf events slot)) :
    Tracks compile known (events ++ [event]) (Function.update memos slot memo) next where
  remembers other raw := by
    rw [historiesOf_concat, continues]
    -- Only the slot of the event has changed.
    by_cases same : other = slot
    · subst same
      rw [Function.update_self, Function.update_self, remembers]
    · rw [Function.update_of_ne same, Function.update_of_ne same, tracks.remembers]
  made other key tree found := by
    rw [historiesOf_concat, continues] at found
    by_cases same : other = slot
    · subst same
      rw [Function.update_self] at found
      exact made key tree found
    · rw [Function.update_of_ne same] at found
      exact (tracks.made other key tree found).imp_right fun origin => origin.append _
  drawn other a tree mem outcome := by
    rcases List.mem_append.mp mem with mem | mem
    · exact Nat.lt_of_lt_of_le (tracks.drawn other a tree mem outcome) le
    · exact (accord other a (List.mem_singleton.mp mem).symm).1 tree outcome
  accord := forall_split_concat tracks.accord fun slot a same => (accord slot a same).2

/-- An answer is right whether the object is kept, compiles, or does not compile. -/
theorem answer (tracks : Tracks compile known events memos supply)
    (distinguished : Shared.Distinguished known) (slot : Nat) {raw : Shared ρ} (mem : known raw) :
    let r := (((memos slot).resolve (logged compile) raw).run []).run supply
    Tracks compile known (events ++ [.answered slot ⟨raw, r.1.1.1, r.1.2⟩])
      (Function.update memos slot r.1.1.2) r.2 := by
  have looked := tracks.remembers slot
  cases found : (memos slot).lookup? raw with
  | some tree =>
      rw [run_resolve_of_kept found]
      rw [looked] at found
      -- The entry is that of an object with the same number, which is the same object. What is handed
      -- out was made by an earlier answer, and that one is found in the history.
      obtain ⟨key, last, same⟩ := exists_entry_of_lookup? found
      obtain ⟨known_key, origin⟩ := tracks.made slot key tree last
      have values : key.value = raw.value := distinguished key raw known_key mem same
      obtain ⟨first_slot, first, mem_first, first_id, first_compiled, first_outcome⟩ := origin.told
      refine tracks.concat rfl (Nat.le_refl _) ?_ ?_ ?_
      · exact fun other => (looked other).trans (lookup?_eq_of_kept found other)
      · rintro _ _ ⟨⟩
        refine ⟨mem, ?_⟩
        have told := (origin.append [.answered slot ⟨raw, .ok tree, []⟩]).told
        rw [same] at told
        exact ⟨values ▸ origin.compiles, told⟩
      · rintro _ _ ⟨⟩
        refine ⟨?_, values ▸ origin.compiles.symm, ?_⟩
        · rintro _ ⟨⟩
          exact tracks.drawn first_slot first tree mem_first first_outcome
        · exact .kept last same rfl rfl mem_first (first_id.trans same) first_compiled first_outcome
  | none =>
      -- Nothing is kept for the object, so what was compiled last is another one.
      have another := lookup?_eq_none_iff.mp ((looked raw).symm.trans found)
      cases outcome : compile raw.value with
      | ok value =>
          rw [run_resolve_of_made found outcome]
          refine tracks.concat rfl (Nat.le_succ _) ?_ ?_ ?_
          · exact fun other => rfl
          · rintro _ _ ⟨⟩
            exact ⟨mem, outcome, slot, _, List.mem_append_right _ (List.mem_singleton_self _), rfl, rfl,
              rfl⟩
          · rintro _ _ ⟨⟩
            refine ⟨?_, outcome.symm, .made another rfl rfl ?_⟩
            · rintro _ ⟨⟩
              exact Nat.lt_succ_self _
            · intro other before older mem_before before_outcome
              exact Nat.ne_of_lt (tracks.drawn other before older mem_before before_outcome)
      | error e =>
          rw [run_resolve_of_failed found outcome]
          refine tracks.concat rfl (Nat.le_refl _) ?_ ?_ ?_
          · exact looked
          · exact fun key tree last =>
              (tracks.made slot key tree last).imp_right fun origin => origin.append _
          · rintro _ _ ⟨⟩
            exact ⟨nofun, outcome.symm, .failed another rfl rfl⟩

/-- A step keeps the memos in step with what is on record. -/
theorem perform (tracks : Tracks compile known events memos supply)
    (distinguished : Shared.Distinguished known) (step : Step ρ)
    (asked : ∀ slot raw, step = .resolve slot raw → known raw) :
    let r := (step.perform compile memos).run supply
    Tracks compile known (events ++ [r.1.1]) r.1.2 r.2 ∧ r.1.1.step = step := by
  cases step with
  | resolve slot raw => exact ⟨tracks.answer distinguished slot (asked slot raw rfl), rfl⟩
  | copy source target =>
      refine ⟨tracks.concat rfl (Nat.le_refl _) (tracks.remembers source) ?_ nofun, rfl⟩
      exact fun key tree last =>
        (tracks.made source key tree last).imp_right fun origin => origin.append _
  | clear slot =>
      refine ⟨tracks.concat rfl (Nat.le_refl _) ?_ nofun nofun, rfl⟩
      exact fun raw => rfl

end Tracks

/-! ## Sequences of steps

By induction on the steps, with any memos and any record to begin with that are in step.
-/

/-- Whatever the steps are, the memos stay in step with what is on record. -/
theorem play_tracks (tracks : Tracks compile known events memos supply)
    (distinguished : Shared.Distinguished known) {steps : List (Step ρ)}
    (asked : ∀ slot raw, .resolve slot raw ∈ steps → known raw) :
    let r := (play compile memos steps).run supply
    Tracks compile known (events ++ r.1.1) r.1.2 r.2 ∧ r.1.1.map Event.step = steps := by
  -- The rest of the steps goes on from what the first one leaves, so the record has to be arbitrary.
  induction steps generalizing events memos supply with
  | nil =>
      refine ⟨?_, rfl⟩
      show Tracks compile known (events ++ []) memos supply
      rwa [List.append_nil]
  | cons step rest ih =>
      obtain ⟨first, taken⟩ := tracks.perform distinguished step fun slot raw same =>
        asked slot raw (same ▸ List.mem_cons_self)
      obtain ⟨others, taken_rest⟩ := ih first fun slot raw mem =>
        asked slot raw (List.mem_cons_of_mem _ mem)
      rw [List.append_assoc] at others
      exact ⟨others, congrArg₂ List.cons taken taken_rest⟩

/-- Whatever the steps are, every answer comes to what the object compiles to and accords with the
history of the memo that gives it. A request that fails leaves its memo as it was. -/
theorem answers_accord (compile : ρ → Except ε σ) {steps : List (Step ρ)}
    (immutable : Shared.Distinguished fun raw => ∃ slot, .resolve slot raw ∈ steps) (supply : Nat) :
    let events := ((play compile (fun _ => .empty) steps).run supply).1.1
    events.map Event.step = steps ∧
    (∀ earlier slot a later, events = earlier ++ .answered slot a :: later →
      a.outcome.map Shared.value = compile a.raw.value ∧
        a.Accords compile earlier (historiesOf earlier slot)) ∧
    ∀ (memo after : Memo ρ (Shared σ)) (raw : Shared ρ) (next : Nat) (e : ε),
      (((memo.resolve (logged compile) raw).run []).run next).1.1 = (.error e, after) →
        after = memo := by
  obtain ⟨tracks, taken⟩ := play_tracks (.empty compile _ supply) immutable
    fun slot raw mem => ⟨slot, mem⟩
  refine ⟨taken, ?_, fun memo after raw next e => eq_of_run_resolve_error⟩
  intro earlier slot a later split
  exact tracks.accord earlier _ later split slot a rfl

/-- Halves even numbers only. -/
def halve (n : Nat) : Except String Nat := if n % 2 = 0 then .ok (n / 2) else .error "odd"

/-- The memo is copied and cleared, an object does not compile, and another object has equal content. -/
def halvingSteps : List (Step Nat) :=
  [.resolve 0 ⟨0, 8⟩, .copy 0 1, .resolve 0 ⟨1, 3⟩, .resolve 0 ⟨0, 8⟩, .resolve 0 ⟨2, 8⟩, .clear 0,
    .resolve 1 ⟨0, 8⟩, .resolve 0 ⟨2, 8⟩]

/-- The object that was compiled first is handed out again after the failure and by the copy. The equal
object is compiled into a new one, and once more after the memo has been cleared. -/
theorem answers_accord_halving :
    let events := ((play halve (fun _ => .empty) halvingSteps).run 7).1.1
    Shared.Distinguished (fun raw => ∃ slot, .resolve slot raw ∈ halvingSteps) ∧
      events.filterMap (fun
        | .answered _ a => some (a.outcome.toOption.map Shared.id, a.compiled)
        | _ => none) =
        [(some 7, [8]), (none, [3]), (some 7, []), (some 8, [8]), (some 7, []), (some 9, [8])] ∧
      ∀ earlier slot a later, events = earlier ++ .answered slot a :: later →
        a.Accords halve earlier (historiesOf earlier slot) := by
  intro events
  have immutable : Shared.Distinguished fun raw => ∃ slot, .resolve slot raw ∈ halvingSteps := by
    rintro a b ⟨slot, mem⟩ ⟨slot', mem'⟩ same
    simp only [halvingSteps, List.mem_cons, List.not_mem_nil, reduceCtorEq, Step.resolve.injEq,
      false_or, or_false] at mem mem'
    rcases mem with ⟨-, rfl⟩ | ⟨-, rfl⟩ | ⟨-, rfl⟩ | ⟨-, rfl⟩ | ⟨-, rfl⟩ | ⟨-, rfl⟩ <;>
      rcases mem' with ⟨-, rfl⟩ | ⟨-, rfl⟩ | ⟨-, rfl⟩ | ⟨-, rfl⟩ | ⟨-, rfl⟩ | ⟨-, rfl⟩ <;>
        first | rfl | cases same
  refine ⟨immutable, by decide, fun earlier slot a later split => ?_⟩
  exact ((answers_accord halve immutable 7).2.1 earlier slot a later split).2

end ImportBoundary.Memo
