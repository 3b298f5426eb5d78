import ImportBoundary.Module.Locate
import ImportBoundary.Violation

/-!
# The judgement of an import

`judge` decides whether an import respects the boundaries of the modules in a scope. It looks, in
this order, at

* the module that holds both ends: the import is judged inside it;
* the destination's module: it has to publish the destination;
* the importing file's module: a submodule that holds the file judges first, and otherwise the
  module has to name the destination's module among its dependencies, or to allow the destination
  as an external one.

An exception of the module that is asked allows the import. Every step goes to a smaller scope
(`Located.forestSize_inside_lt`, `Located.forestSize_insideBeside_lt`).
-/

namespace ImportBoundary

/-- The two ends of an import. -/
structure Route where
  source : Path
  target : Path
deriving DecidableEq, Repr

def Edge.route (e : Edge) : Route := ⟨e.source, e.target⟩

namespace Boundary

/-- Whether one of the module's exceptions allows the import. -/
def excepts (b : Boundary) (r : Route) : Bool :=
  b.exceptions.any fun e => e.covers r.source.text r.target.text

/-- Whether the module lets the import in: its interface lists the destination, or an exception
allows it. -/
def admits (b : Boundary) (r : Route) : Bool :=
  Pattern.anyAccepts b.interface r.target.text || b.excepts r

/-- Whether the module may import the destination from the module at `path`. -/
def dependsOn (b : Boundary) (path : Path) (r : Route) : Bool :=
  (b.dependencies.any fun d => d.covers path r.target.text) || b.excepts r

/-- Whether the module may import the destination from outside of all modules. -/
def allowsExternal (b : Boundary) (r : Route) : Bool :=
  b.externals.allows r.target.text || b.excepts r

def privateImplementation (b : Boundary) : Violation :=
  ⟨.privateImplementation, none, some b.path, b.note⟩

def notADependency (b target : Boundary) : Violation :=
  ⟨.notADependency, some b.path, some target.path, b.note⟩

def invalidExternal (b : Boundary) : Violation :=
  ⟨.invalidExternal, some b.path, none, b.note⟩

/-- What the importing file's module says of the import, given the destination's module. -/
def outbound (b : Boundary) (target : Option Boundary) (r : Route) : Option Violation :=
  match target with
  | some t => if b.dependsOn t.path r then none else some (b.notADependency t)
  | none => if b.allowsExternal r then none else some b.invalidExternal

end Boundary

/-- The outcome for a scope: the violation, if there is one, and the module of the scope that holds
the importing file. -/
structure Judgement where
  violation : Option Violation
  source : Option CompiledModule

/-- Judges an import against the modules of a scope. -/
def judge (r : Route) (scope : Scope) : Judgement :=
  match _found : locate r.source scope, locate r.target scope with
  | none, none => ⟨none, none⟩
  | none, some t =>
    ⟨if t.boundary.admits r then none else some t.boundary.privateImplementation, none⟩
  | some f, target =>
    -- Modules of one path may stand side by side, so modules are compared by their places.
    if (target.map Located.place) = some f.place then
      ⟨(judge r f.inside).violation, some f.module⟩
    else if target.any fun t => !t.boundary.admits r then
      ⟨target.map fun t => t.boundary.privateImplementation, some f.module⟩
    else
      let own := f.boundary.outbound (target.map Located.boundary) r
      if f.inside.isEmpty then ⟨own, some f.module⟩
      else
        -- The siblings are taken along, since the destination may belong to one of them.
        let inner := judge r f.insideBeside
        ⟨if inner.source.isSome then inner.violation else own, some f.module⟩
termination_by Tree.forestSize scope
decreasing_by
  · exact scope_of_locate _found ▸ f.forestSize_inside_lt
  · exact scope_of_locate _found ▸ f.forestSize_insideBeside_lt

namespace Edge

/-- Judges an edge. The destination is asked for only if there are modules to judge it. -/
def judge (e : Edge) (scope : Scope) : StateM Cell Judgement :=
  if scope.isEmpty then pure ⟨none, none⟩
  else do
    let d ← e.demand
    return ImportBoundary.judge ⟨e.source, d.path⟩ scope

def violationMessages (e : Edge) (scope : Scope) :
    StateM Cell (Option (ViolationKind × String)) := do
  let judgement ← e.judge scope
  return judgement.violation.map fun v => (v.kind, v.message e)

end Edge

end ImportBoundary
