import ImportBoundary.Path.Basic

/-!
# Import edges

An edge is one import as the host saw it: a file, the import text written in it, and the project
root. Its source path is known at once. Its destination is worked out only on demand; `Edge.demand`
does so at most once and leaves the answer in the edge's cell, so that a computation over an edge
shows whether it needed the destination (`Cell`).

Paths are normalized before the project root is taken off. An import text that starts with a dot is
read in the directory of the file, and anything else stands for a path from the root of the repository,
or for a package: the two are not told apart before a module has been looked for.
-/

namespace ImportBoundary

/-- One import of one file. -/
structure Edge where
  /-- The importing file as the host supplied it; messages show it unchanged. -/
  file : String
  /-- The import text as written in the file; messages show it unchanged. -/
  importText : String
  /-- The project root; absolute paths below it are made relative to it. -/
  root : Path
deriving DecidableEq, Repr

structure Destination where
  path : Path
  /-- The directory of `path`; a bare name such as a package has none. -/
  dir? : Option Path
deriving DecidableEq, Repr

namespace Edge

/-- The importing file's path, seen from the project root. -/
def source (e : Edge) : Path := (Path.normalize e.file).relativeTo e.root

def sourceDir (e : Edge) : Path := e.source.parent?.getD Path.root

/-- An import that starts with a dot is read in the importing file's directory. -/
def isRelative (e : Edge) : Bool := e.importText.toList.head? = some '.'

/-- The path an import leads to. A relative import is resolved in the importing file's directory;
anything else only loses the project root. -/
def target (e : Edge) : Path :=
  if e.isRelative then e.sourceDir.join e.importText
  else (Path.normalize e.importText).relativeTo e.root

def destination (e : Edge) : Destination := ⟨e.target, e.target.parent?⟩

/-- The place where an edge keeps its destination once it has been asked for. -/
abbrev Cell := Option Destination

/-- Asks for the destination: the cell's content if there is one, else the resolved destination,
which is then kept. -/
def demand (e : Edge) : StateM Cell Destination := do
  match ← get with
  | some d => pure d
  | none =>
    set (some e.destination)
    pure e.destination

end Edge

end ImportBoundary
