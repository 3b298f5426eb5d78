import ImportBoundary.Tree

/-!
# Modules as they are declared

A module is a directory with rules about what crosses its border. This is how a configuration
declares one; the modules nested in it are its children in a tree.

Nothing in a declaration is checked. Any text may be a path or a pattern, and a module may be nested in
one that it does not lie in.
-/

namespace ImportBoundary

/-- The files of a module that others may import: one pattern, or a list of patterns. The two
spellings mean the same when the list has one pattern, but they are kept apart. -/
inductive InterfaceDeclaration where
  | one (pattern : String)
  | many (patterns : List String)
deriving DecidableEq, Repr

inductive DependencyDeclaration where
  /-- Any file of it. -/
  | whole (path : String)
  /-- The files that match one of the patterns, or any file if there are none. -/
  | restricted (path : String) (only : List String)
deriving DecidableEq, Repr

/-- Imports that are allowed all the same: patterns for the importing file and for the destination. -/
structure ExceptionDeclaration where
  source : String
  target : String
deriving DecidableEq, Repr

/-- A module as declared, without the modules nested in it. -/
structure ModuleDeclaration where
  /-- The directory, in any spelling. -/
  path : String
  /-- Nothing means that no file may be imported. -/
  interface : Option InterfaceDeclaration := none
  dependencies : List DependencyDeclaration := []
  /-- Patterns for imports that lead into no module. Nothing allows all of them. -/
  externals : Option (List String) := none
  exceptions : List ExceptionDeclaration := []
  /-- More exceptions, under an older name. -/
  techdebt : List ExceptionDeclaration := []
  /-- A text that is added to every violation blamed on the module. -/
  note : Option String := none
deriving DecidableEq, Repr

abbrev DeclaredModule := Tree ModuleDeclaration

end ImportBoundary
