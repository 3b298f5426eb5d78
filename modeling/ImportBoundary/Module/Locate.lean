import ImportBoundary.Module.Boundary

/-!
# The module of a path

A module holds every path that is its directory or lies below it. Among sibling modules the first
one that holds a path is the module of that path; siblings should not overlap, but when they do, the
earlier declaration wins.

A located module comes with what stands before and behind it in its scope, so both scopes into which a
judgement can go on are made of its parts.
-/

namespace ImportBoundary

/-- Whether a module holds a path. -/
def Boundary.holds (b : Boundary) (p : Path) : Bool := Path.isUnder p.text b.path.text

/-- A scope is a list of sibling modules. -/
abbrev Scope := List CompiledModule

/-- A module of a scope, with the siblings before and after it. -/
structure Located where
  before : List CompiledModule
  module : CompiledModule
  after : List CompiledModule

namespace Located

/-- The place of the module in its scope. -/
def place (l : Located) : Nat := l.before.length

def boundary (l : Located) : Boundary := l.module.value

def scope (l : Located) : Scope := l.before ++ l.module :: l.after

def inside (l : Located) : Scope := l.module.children

/-- The scope inside the module, with the siblings of the module behind it. -/
def insideBeside (l : Located) : Scope := l.module.children ++ l.before ++ l.after

/-- Moves a sibling in front. -/
def behind (sibling : CompiledModule) (l : Located) : Located :=
  { l with before := sibling :: l.before }

end Located

/-- The first module of a scope that holds a path. -/
def locate (p : Path) : Scope → Option Located
  | [] => none
  | t :: rest =>
    if t.value.holds p then some ⟨[], t, rest⟩ else (locate p rest).map (Located.behind t)

/-- A located module is one of its scope. -/
theorem scope_of_locate {p : Path} {scope : Scope} {l : Located} (h : locate p scope = some l) :
    l.scope = scope := by
  induction scope generalizing l with
  | nil => simp [locate] at h
  | cons t rest ih =>
    unfold locate at h
    split at h
    · cases h
      rfl
    · obtain ⟨inner, found, rfl⟩ := Option.map_eq_some_iff.1 h
      simp [Located.behind, Located.scope, ← ih found]

/-- A located module holds the path. -/
theorem holds_of_locate {p : Path} {scope : Scope} {l : Located} (h : locate p scope = some l) :
    l.boundary.holds p := by
  induction scope generalizing l with
  | nil => simp [locate] at h
  | cons t rest ih =>
    unfold locate at h
    split at h
    · cases h
      assumption
    · obtain ⟨inner, found, rfl⟩ := Option.map_eq_some_iff.1 h
      show inner.boundary.holds p
      exact ih found

/-- The scope inside a module is smaller than the scope of the module. -/
theorem Located.forestSize_inside_lt (l : Located) :
    Tree.forestSize l.inside < Tree.forestSize l.scope := by
  simp [Located.inside, Located.scope, Tree.size_eq]
  omega

/-- The scope inside a module and beside it is smaller than the scope of the module, because the
module itself has gone. -/
theorem Located.forestSize_insideBeside_lt (l : Located) :
    Tree.forestSize l.insideBeside < Tree.forestSize l.scope := by
  simp [Located.insideBeside, Located.scope, Tree.size_eq]
  omega

end ImportBoundary
