import ImportBoundary.Evaluation

/-!
# Faithful caches

A memo serves an object if what it keeps for the object, if anything, is what the object compiles
to. From such a memo `resolve` gives what compiling gives (`Memo.run_resolve_of_serves`), and so an
evaluation with a cache that serves its settings is the evaluation without one
(`run_evaluate_of_serves`).

A memo is faithful to some known objects if it keeps one of them with what it compiles to. As long
as no two known objects share a number, a faithful memo serves each of them, and resolving one of
them leaves the memo faithful, also when it does not compile.

The two notions divide the work. To serve its settings is all that an evaluation asks of a cache, but
the next evaluation may be under other settings. To be faithful is what every step keeps, whatever it
resolves and whether or not it succeeds, and it gives back the first notion for each of the known
objects.
-/

namespace ImportBoundary

theorem Supply.run_bind {α β : Type} (x : Supply α) (f : α → Supply β) (supply : Nat) :
    (x >>= f).run supply = (f (x.run supply).1).run (x.run supply).2 :=
  rfl

/-- The rules of settings in compiled form, without a cache: modules first, then layers. -/
def CompiledRules.ofSettings (compile : PatternCompiler) (s : Settings) :
    Except CompileError CompiledRules := do
  let scope ← compileModules compile s.modules.value
  let layers ← compileLayers compile s.layers.value
  return ⟨scope, layers⟩

/-- No two of the objects share a number without being the same. -/
def Shared.Distinguished {ρ : Type} (known : Shared ρ → Prop) : Prop :=
  ∀ a b, known a → known b → a.id = b.id → a.value = b.value

namespace Memo

variable {ρ τ : Type} {compile : ρ → Except CompileError τ} {raw : Shared ρ}
  {memo after : Memo ρ (Shared τ)} {known : Shared ρ → Prop}

/-- What the memo keeps for the object, if anything, is what the object compiles to. -/
def Serves (compile : ρ → Except CompileError τ) (raw : Shared ρ) (memo : Memo ρ (Shared τ)) :
    Prop :=
  ∀ kept, memo.lookup? raw = some kept → compile raw.value = .ok kept.value

/-- What becomes of a memo when it resolves an object: it stays, or it keeps the object with what
the object compiles to. -/
def Follows (compile : ρ → Except CompileError τ) (raw : Shared ρ)
    (memo after : Memo ρ (Shared τ)) : Prop :=
  after = memo ∨ ∃ made, compile raw.value = .ok made.value ∧ after = ⟨some (raw, made)⟩

/-- The memo keeps nothing, or a known object with what it compiles to. -/
def Faithful (compile : ρ → Except CompileError τ) (known : Shared ρ → Prop)
    (memo : Memo ρ (Shared τ)) : Prop :=
  ∀ key kept, memo.entry = some (key, kept) → known key ∧ compile key.value = .ok kept.value

theorem serves_empty (compile : ρ → Except CompileError τ) (raw : Shared ρ) :
    (empty : Memo ρ (Shared τ)).Serves compile raw := by
  intro kept found
  cases found

theorem faithful_empty (compile : ρ → Except CompileError τ) (known : Shared ρ → Prop) :
    (empty : Memo ρ (Shared τ)).Faithful compile known := by
  intro key kept found
  cases found

/-- What is kept for an object is kept under its number. -/
theorem exists_entry_of_lookup? {τ : Type} {memo : Memo ρ τ} {kept : τ}
    (found : memo.lookup? raw = some kept) :
    ∃ key, memo.entry = some (key, kept) ∧ key.id = raw.id := by
  unfold lookup? at found
  cases entry : memo.entry with
  | none => simp [entry] at found
  | some pair =>
      obtain ⟨key, value⟩ := pair
      simp only [entry] at found
      split at found
      · next same =>
          cases found
          exact ⟨key, rfl, same⟩
      · cases found

/-- A faithful memo serves every known object. -/
theorem Faithful.serves (faithful : memo.Faithful compile known)
    (distinguished : Shared.Distinguished known) (mem : known raw) : memo.Serves compile raw := by
  intro kept found
  obtain ⟨key, entry, same⟩ := exists_entry_of_lookup? found
  obtain ⟨mem_key, made⟩ := faithful key kept entry
  rw [← distinguished key raw mem_key mem same]
  exact made

/-- Resolving a known object leaves a memo faithful. -/
theorem Faithful.of_follows (faithful : memo.Faithful compile known) (mem : known raw)
    (follows : memo.Follows compile raw after) : after.Faithful compile known := by
  rcases follows with rfl | ⟨made, compiles, rfl⟩
  · exact faithful
  · intro key kept entry
    cases entry
    exact ⟨mem, compiles⟩

/-- From a memo that serves an object the object resolves to what it compiles to. -/
theorem run_resolve_of_serves (serves : memo.Serves compile raw) (supply : Nat) :
    let outcome := ((memo.resolve (Cache.compileShared compile) raw).run supply).1
    outcome.1.map Shared.value = compile raw.value ∧ memo.Follows compile raw outcome.2 := by
  unfold resolve
  cases found : memo.lookup? raw with
  | some kept => exact ⟨(serves kept found).symm, Or.inl rfl⟩
  | none =>
      unfold Cache.compileShared
      cases compiles : compile raw.value with
      | error e => exact ⟨rfl, Or.inl rfl⟩
      | ok made => exact ⟨rfl, Or.inr ⟨⟨supply, made⟩, compiles, rfl⟩⟩

end Memo

namespace Cache

variable {compile : PatternCompiler} {s : Settings} {cache : Cache}
  {modules : Shared (List DeclaredModule) → Prop} {layers : Shared (List LayerDeclaration) → Prop}

/-- What the cache keeps for the settings, if anything, is what they compile to. -/
structure Serves (compile : PatternCompiler) (s : Settings) (cache : Cache) : Prop where
  modules : cache.modules.Serves (compileModules compile) s.modules
  layers : cache.layers.Serves (compileLayers compile) s.layers

/-- The cache keeps known lists of rules with what they compile to. -/
structure Faithful (compile : PatternCompiler) (modules : Shared (List DeclaredModule) → Prop)
    (layers : Shared (List LayerDeclaration) → Prop) (cache : Cache) : Prop where
  modules : cache.modules.Faithful (compileModules compile) modules
  layers : cache.layers.Faithful (compileLayers compile) layers

theorem serves_empty (compile : PatternCompiler) (s : Settings) : empty.Serves compile s :=
  ⟨Memo.serves_empty _ _, Memo.serves_empty _ _⟩

theorem faithful_empty (compile : PatternCompiler) : empty.Faithful compile modules layers :=
  ⟨Memo.faithful_empty _ _, Memo.faithful_empty _ _⟩

/-- A faithful cache serves settings with known lists of rules. -/
theorem Faithful.serves (faithful : cache.Faithful compile modules layers)
    (distinguished_modules : Shared.Distinguished modules)
    (distinguished_layers : Shared.Distinguished layers) (mem_modules : modules s.modules)
    (mem_layers : layers s.layers) : cache.Serves compile s :=
  ⟨faithful.modules.serves distinguished_modules mem_modules,
    faithful.layers.serves distinguished_layers mem_layers⟩

/-- When the modules do not compile, the layers are not looked at. -/
theorem run_resolve_of_error {supply next : Nat} {e : CompileError}
    {modules : Memo (List DeclaredModule) (Shared Scope)}
    (first : (cache.modules.resolve (compileScope compile) s.modules).run supply =
      ((.error e, modules), next)) :
    ((cache.resolve compile s).run supply).1 = (.error e, { cache with modules }) := by
  rw [resolve, Supply.run_bind, first]
  rfl

/-- When the modules compile, the rules are those of the modules and of the layers. -/
theorem run_resolve_of_ok {supply next last : Nat} {scope : Shared Scope}
    {modules : Memo (List DeclaredModule) (Shared Scope)}
    {layers : Except CompileError (Shared (List LayerRule))}
    {kept : Memo (List LayerDeclaration) (Shared (List LayerRule))}
    (first : (cache.modules.resolve (compileScope compile) s.modules).run supply =
      ((.ok scope, modules), next))
    (second : (cache.layers.resolve (compileRules compile) s.layers).run next =
      ((layers, kept), last)) :
    ((cache.resolve compile s).run supply).1 =
      ((layers.map Shared.value).map fun layers => ⟨scope.value, layers⟩, ⟨modules, kept⟩) := by
  rw [resolve, Supply.run_bind, first]
  show ((_ : Supply _).run next).1 = _
  rw [Supply.run_bind, second]
  cases layers <;> rfl

/-- From a cache that serves some settings their rules resolve to what they compile to. If the
layers do not compile, the memo of the modules has moved on all the same. -/
theorem run_resolve_of_serves (serves : cache.Serves compile s) (supply : Nat) :
    let outcome := ((cache.resolve compile s).run supply).1
    outcome.1 = CompiledRules.ofSettings compile s ∧
      cache.modules.Follows (compileModules compile) s.modules outcome.2.modules ∧
      cache.layers.Follows (compileLayers compile) s.layers outcome.2.layers := by
  have scopes := Memo.run_resolve_of_serves serves.modules supply
  rcases first : (cache.modules.resolve (compileScope compile) s.modules).run supply with
    ⟨⟨scope, modules⟩, next⟩
  rw [← compileScope, first] at scopes
  obtain ⟨compiled_scope, follows_modules⟩ := scopes
  -- Whatever the layers come to, the memo of the modules is the one that the modules leave.
  cases scope with
  | error e =>
      rw [run_resolve_of_error first]
      refine ⟨?_, follows_modules, Or.inl rfl⟩
      rw [CompiledRules.ofSettings, ← compiled_scope]
      rfl
  | ok scope =>
      have rules := Memo.run_resolve_of_serves serves.layers next
      rcases second : (cache.layers.resolve (compileRules compile) s.layers).run next with
        ⟨⟨layers, kept⟩, last⟩
      rw [← compileRules, second] at rules
      obtain ⟨compiled_layers, follows_layers⟩ := rules
      rw [run_resolve_of_ok first second]
      refine ⟨?_, follows_modules, follows_layers⟩
      rw [CompiledRules.ofSettings, ← compiled_scope, ← compiled_layers]
      cases layers <;> rfl

/-- Resolving settings with known lists of rules leaves a cache faithful. -/
theorem Faithful.run_resolve (faithful : cache.Faithful compile modules layers)
    (serves : cache.Serves compile s) (mem_modules : modules s.modules)
    (mem_layers : layers s.layers) (supply : Nat) :
    ((cache.resolve compile s).run supply).1.2.Faithful compile modules layers := by
  obtain ⟨-, follows_modules, follows_layers⟩ := run_resolve_of_serves serves supply
  exact ⟨faithful.modules.of_follows mem_modules follows_modules,
    faithful.layers.of_follows mem_layers follows_layers⟩

end Cache

/-! ## Evaluations

An evaluation looks into its cache once, for its rules, and hands the cache on. From here on a cache
that serves the settings can be left out of sight.
-/

variable {compile : PatternCompiler} {s : Settings} {cache : Cache} {g : ImportGraph} {root : Path}

/-- With a cache that serves the settings an evaluation is the one under the rules to which they
compile. -/
theorem run_evaluate_of_serves (serves : cache.Serves compile s) (supply : Nat) :
    ((evaluate compile g root s cache).run supply).1.1 =
      (CompiledRules.ofSettings compile s).map fun rules => evaluateWith s rules root g := by
  rw [← (Cache.run_resolve_of_serves serves supply).1]
  rfl

end ImportBoundary
