import ImportBoundary.Module.Declaration
import ImportBoundary.Path.Basic
import ImportBoundary.Pattern.Basic

/-!
# Compiled modules

The boundary of a module is its declaration with the path in canonical form and every pattern
compiled. `compileModules` compiles a forest and keeps its shape; the first pattern that does not
compile decides the error, in the order in which the patterns are declared. The functions take the
pattern compiler as a parameter, so what they say holds for any notion of pattern.
-/

namespace ImportBoundary

/-- What declared a pattern. -/
inductive PatternOwner where
  /-- A module, by its path as written. -/
  | module (path : String)
  /-- A layer rule, by its number from one. -/
  | layer (number : Nat)
deriving DecidableEq, Repr

/-- The part of a declaration in which a pattern stands. -/
inductive PatternField where
  | interface
  | dependency
  | externals
  | exceptionSource
  | exceptionTarget
  | layerSource
  | layerTarget
  | layerExcept
deriving DecidableEq, Repr

structure CompileError where
  owner : PatternOwner
  field : PatternField
  error : PatternError
deriving DecidableEq, Repr

namespace PatternOwner

def text : PatternOwner → String
  | module path => "module '" ++ path ++ "'"
  | layer number => "layer #" ++ toString number

end PatternOwner

namespace PatternField

def text : PatternField → String
  | interface => "interface"
  | dependency => "dependency 'on'"
  | externals => "externals"
  | exceptionSource => "exception 'from'"
  | exceptionTarget => "exception 'to'"
  | layerSource => "from"
  | layerTarget => "to"
  | layerExcept => "except"

end PatternField

namespace CompileError

/-- The message without what is wrong with the pattern. -/
def summary (e : CompileError) : String :=
  e.owner.text ++ ": invalid " ++ e.field.text ++ " pattern"

end CompileError

/-- A compiled dependency: the module, and the patterns of the files that may be imported from it. -/
structure Dependency where
  path : Path
  only : List Pattern

/-- Whether a dependency allows the import of `target` from the module at `path`. -/
def Dependency.covers (d : Dependency) (path : Path) (target : String) : Bool :=
  d.path = path && (d.only.isEmpty || Pattern.anyAccepts d.only target)

/-- What a module may import from outside of all modules. -/
inductive Externals where
  | all
  | only (patterns : List Pattern)

def Externals.allows (target : String) : Externals → Bool
  | all => true
  | only patterns => Pattern.anyAccepts patterns target

structure BoundaryException where
  source : Pattern
  target : Pattern

def BoundaryException.covers (e : BoundaryException) (source target : String) : Bool :=
  e.source.accepts source && e.target.accepts target

/-- A compiled module, without the modules nested in it. -/
structure Boundary where
  path : Path
  interface : List Pattern
  dependencies : List Dependency
  externals : Externals
  exceptions : List BoundaryException
  note : Option String

abbrev CompiledModule := Tree Boundary

/-! ### Compilation

The functions are named after the parts of a declaration and report a fault with the module and the
field in which the pattern stands. Exceptions may stand under two names and are compiled as one list.
-/

abbrev PatternCompiler := String → Except PatternError Pattern

/-- Compiles patterns in order; the first one that fails decides. -/
def compilePatterns (compile : PatternCompiler) (owner : PatternOwner) (field : PatternField)
    (sources : List String) : Except CompileError (List Pattern) :=
  sources.mapM fun source => (compile source).mapError fun e => ⟨owner, field, e⟩

def compilePattern (compile : PatternCompiler) (owner : PatternOwner) (field : PatternField)
    (source : String) : Except CompileError Pattern :=
  (compile source).mapError fun e => ⟨owner, field, e⟩

def InterfaceDeclaration.patterns : InterfaceDeclaration → List String
  | one pattern => [pattern]
  | many patterns => patterns

def DependencyDeclaration.path : DependencyDeclaration → String
  | whole path => path
  | restricted path _ => path

def DependencyDeclaration.patterns : DependencyDeclaration → List String
  | whole _ => []
  | restricted _ only => only

namespace ModuleDeclaration

/-- The name under which the module's patterns are reported. -/
def owner (d : ModuleDeclaration) : PatternOwner := .module d.path

def compileDependency (compile : PatternCompiler) (d : ModuleDeclaration)
    (dependency : DependencyDeclaration) : Except CompileError Dependency := do
  let only ← compilePatterns compile d.owner .dependency dependency.patterns
  return ⟨Path.normalize dependency.path, only⟩

def compileExternals (compile : PatternCompiler) (d : ModuleDeclaration) :
    Except CompileError Externals :=
  match d.externals with
  | none => .ok .all
  | some patterns => do return .only (← compilePatterns compile d.owner .externals patterns)

def compileException (compile : PatternCompiler) (d : ModuleDeclaration)
    (e : ExceptionDeclaration) : Except CompileError BoundaryException := do
  let source ← compilePattern compile d.owner .exceptionSource e.source
  let target ← compilePattern compile d.owner .exceptionTarget e.target
  return ⟨source, target⟩

/-- Compiles a module, without the modules nested in it: interface, dependencies, externals, then
exceptions under either name. -/
def compile (compile : PatternCompiler) (d : ModuleDeclaration) : Except CompileError Boundary := do
  let interface ← compilePatterns compile d.owner .interface
    ((d.interface.map InterfaceDeclaration.patterns).getD [])
  let dependencies ← d.dependencies.mapM (d.compileDependency compile)
  let externals ← d.compileExternals compile
  let exceptions ← (d.exceptions ++ d.techdebt).mapM (d.compileException compile)
  return ⟨Path.normalize d.path, interface, dependencies, externals, exceptions, d.note⟩

end ModuleDeclaration

/-- Compiles a forest of modules, each before the modules nested in it. -/
def compileModules (compile : PatternCompiler) (forest : List DeclaredModule) :
    Except CompileError (List CompiledModule) :=
  Tree.traverse (ModuleDeclaration.compile compile) forest

/-- The number of declared modules, nested ones included. -/
def countModules (forest : List DeclaredModule) : Nat := Tree.forestSize forest

end ImportBoundary
