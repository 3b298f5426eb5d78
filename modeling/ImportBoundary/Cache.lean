import ImportBoundary.Memo
import ImportBoundary.Module.Locate
import ImportBoundary.Settings.Basic

/-!
# The cache of compiled rules

Many imports are checked against one configuration, so its rules are compiled once and kept. The
cache holds a memo for the modules and one for the layers. When the layers do not compile, the
modules have been kept already.

Both memos go by the identity of what settings hold, so settings that are copied and changed elsewhere
are served from the cache, and settings that are read a second time are not. What is compiled becomes a
new object, whose number tells it from what was there before.
-/

namespace ImportBoundary

structure CompiledRules where
  scope : Scope
  layers : List LayerRule

/-- Compiled rules that are kept for the configuration they were compiled from. -/
structure Cache where
  modules : Memo (List DeclaredModule) (Shared Scope) := {}
  layers : Memo (List LayerDeclaration) (Shared (List LayerRule)) := {}

namespace Cache

def empty : Cache := {}

/-- Compiles something into a new object. -/
def compileShared {ρ τ ε : Type} (compile : ρ → Except ε τ) (raw : ρ) :
    Supply (Except ε (Shared τ)) :=
  match compile raw with
  | .ok made => do return .ok (← Shared.make made)
  | .error e => pure (.error e)

def compileScope (compile : PatternCompiler) :
    List DeclaredModule → Supply (Except CompileError (Shared Scope)) :=
  compileShared (compileModules compile)

def compileRules (compile : PatternCompiler) :
    List LayerDeclaration → Supply (Except CompileError (Shared (List LayerRule))) :=
  compileShared (compileLayers compile)

/-- The compiled rules of some settings, and the cache afterwards. -/
def resolve (compile : PatternCompiler) (s : Settings) (cache : Cache) :
    Supply (Except CompileError CompiledRules × Cache) := do
  let (scope, modules) ← cache.modules.resolve (compileScope compile) s.modules
  match scope with
  | .error e => return (.error e, { cache with modules })
  | .ok scope =>
    let (rules, layers) ← cache.layers.resolve (compileRules compile) s.layers
    match rules with
    -- What the modules compiled to is kept, although the settings as a whole do not compile.
    | .error e => return (.error e, ⟨modules, layers⟩)
    | .ok rules => return (.ok ⟨scope.value, rules.value⟩, ⟨modules, layers⟩)

end Cache

end ImportBoundary
