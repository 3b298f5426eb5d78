import ImportBoundary.Proofs.Cache.Faithful
import ImportBoundary.Settings.Resolve

/-!
# Caches that hold the rules already

A memo supplies an object if it hands the object's compiled form out and asks no compiler for it,
whatever the compiler would do (`Memo.Supplies`). Whatever has been resolved with success is supplied
from then on (`Memo.supplies_of_resolve`), and so the cache that comes with a resolved configuration
supplies its rules (`Config.supplies_of_resolve`). An evaluation with such a cache has nothing left to
do that could fail (`evaluate_of_supplies`).

That nobody is asked cannot be said by the outcome alone, since a compiler that agrees would come to
the same. So it is said of every compiler in every monad: what does not depend on the compiler has not
run it.
-/

namespace ImportBoundary

namespace Memo

variable {ρ τ ε : Type} {raw : Shared ρ} {made : τ} {memo after : Memo ρ τ}

/-- The memo hands out `made` for the object and stays as it is. It asks no compiler: this holds for
every one, in every monad. -/
def Supplies (raw : Shared ρ) (made : τ) (memo : Memo ρ τ) : Prop :=
  ∀ {ε : Type} {m : Type → Type} [Monad m] (compile : ρ → m (Except ε τ)),
    memo.resolve compile raw = pure (.ok made, memo)

theorem supplies_of_lookup? (kept : memo.lookup? raw = some made) : memo.Supplies raw made := by
  intro ε m _ compile
  unfold resolve
  rw [kept]

theorem lookup?_entry (raw : Shared ρ) (made : τ) :
    (⟨some (raw, made)⟩ : Memo ρ τ).lookup? raw = some made :=
  if_pos rfl

/-- An object that has been resolved with success is supplied afterwards. -/
theorem supplies_of_resolve {compile : ρ → Supply (Except ε τ)} {supply : Nat}
    (resolved : ((memo.resolve compile raw).run supply).1 = (.ok made, after)) :
    after.Supplies raw made := by
  unfold resolve at resolved
  cases kept : memo.lookup? raw with
  | some found =>
      rw [kept] at resolved
      cases resolved
      exact supplies_of_lookup? kept
  | none =>
      -- The memo has to compile; only a success is kept, under the object it was compiled from.
      rw [kept] at resolved
      change ((compile raw.value >>= _ : Supply _).run supply).1 = _ at resolved
      rw [Supply.run_bind] at resolved
      cases outcome : ((compile raw.value).run supply).1 with
      | ok value =>
          rw [outcome] at resolved
          cases resolved
          exact supplies_of_lookup? (lookup?_entry raw made)
      | error e =>
          rw [outcome] at resolved
          cases resolved

end Memo

namespace Cache

variable {compile : PatternCompiler} {s : Settings} {cache after : Cache} {rules : CompiledRules}

/-- The cache supplies the rules of the settings. -/
structure Supplies (s : Settings) (rules : CompiledRules) (cache : Cache) : Prop where
  modules : ∃ made : Shared Scope, made.value = rules.scope ∧ cache.modules.Supplies s.modules made
  layers : ∃ made : Shared (List LayerRule),
    made.value = rules.layers ∧ cache.layers.Supplies s.layers made

/-- Resolving settings whose rules are supplied does nothing but hand them out. -/
theorem resolve_of_supplies (supplies : cache.Supplies s rules) (compile : PatternCompiler) :
    cache.resolve compile s = pure (.ok rules, cache) := by
  obtain ⟨⟨scope, same_scope, modules⟩, ⟨layers, same_layers, kept⟩⟩ := supplies
  rw [resolve, modules]
  simp only [pure_bind, kept (compileRules compile), same_scope, same_layers]

/-- Rules that have been resolved with success are supplied afterwards. -/
theorem supplies_of_resolve {supply : Nat}
    (resolved : ((cache.resolve compile s).run supply).1 = (.ok rules, after)) :
    after.Supplies s rules := by
  rcases first : (cache.modules.resolve (compileScope compile) s.modules).run supply with
    ⟨⟨scope, modules⟩, next⟩
  cases scope with
  | error e =>
      rw [run_resolve_of_error first] at resolved
      cases resolved
  | ok scope =>
      rcases second : (cache.layers.resolve (compileRules compile) s.layers).run next with
        ⟨⟨layers, kept⟩, last⟩
      rw [run_resolve_of_ok first second] at resolved
      cases layers with
      | error e => cases resolved
      | ok layers =>
          cases resolved
          exact ⟨⟨scope, rfl, Memo.supplies_of_resolve (congrArg Prod.fst first)⟩,
            ⟨layers, rfl, Memo.supplies_of_resolve (congrArg Prod.fst second)⟩⟩

end Cache

/-- With a cache that supplies the rules an evaluation compiles nothing and does not fail. -/
theorem evaluate_of_supplies {s : Settings} {rules : CompiledRules} {cache : Cache}
    (supplies : cache.Supplies s rules) (compile : PatternCompiler) (g : ImportGraph) (root : Path) :
    evaluate compile g root s cache = pure (.ok (evaluateWith s rules root g), cache) := by
  rw [evaluate, Cache.resolve_of_supplies supplies]
  rfl

/-- A configuration that resolves comes with a cache that supplies its rules, which are what its
modules and layers compile to. -/
theorem Config.supplies_of_resolve {compile : PatternCompiler} {c : Config} {o : Overrides}
    {supply : Nat} {resolved : Resolved}
    (h : ((c.resolve compile o).run supply).1 = .ok resolved) :
    ∃ rules, CompiledRules.ofSettings compile resolved.settings = .ok rules ∧
      resolved.cache.Supplies resolved.settings rules := by
  unfold Config.resolve at h
  rw [Supply.run_bind, Supply.run_bind] at h
  split at h
  · cases h
  · next settings _ =>
      rw [Supply.run_bind] at h
      -- Whatever numbers the two raw lists have been given, the empty cache serves the settings.
      generalize ((Shared.make c.layers).run _).2 = next at h
      have compiles := (Cache.run_resolve_of_serves (Cache.serves_empty compile settings) next).1
      rcases outcome : (Cache.empty.resolve compile settings).run next with ⟨⟨rules, cache⟩, last⟩
      rw [outcome] at h compiles
      cases rules with
      | error e => cases h
      | ok rules =>
          cases h
          exact ⟨rules, compiles.symm, Cache.supplies_of_resolve (congrArg Prod.fst outcome)⟩

end ImportBoundary
