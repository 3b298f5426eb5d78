import ImportBoundary.Host.Basic
import ImportBoundary.Host.FileName

/-!
# Writing into new directories

A file is written after the directories on the way to it have been made.

The innermost directory is tried first. Only if the one above it is missing is that one made, in the
same way, and the directory is tried again. A directory that is there already does no harm.
-/

namespace ImportBoundary.Host

variable {m : Type → Type} [Monad m]

/-- Makes a directory that may be there already. -/
def settle (h : Host m) (name : String) (refusal : OsError) : m (Except OsError Unit) := do
  if refusal = .alreadyExists then
    if ← h.isDirectory name then return .ok ()
  return .error refusal

/-- Makes the first directory of a list after those behind it, as far as they are missing. -/
def makeChain (h : Host m) : List String → m (Except OsError Unit)
  | [] => return .ok ()
  | name :: above => do
    match ← h.makeDirectory name with
    | .ok () => return .ok ()
    -- The directory above is missing. It is made first, with those on the way to it.
    | .error .noEntry =>
      match ← makeChain h above with
      | .error e => return .error e
      | .ok () =>
        match ← h.makeDirectory name with
        | .ok () => return .ok ()
        | .error e => h.settle name e
    | .error e => h.settle name e

/-- Makes a directory and all directories on the way to it. The last of the ancestors is there. -/
def makeDirectories (h : Host m) (name : String) : m (Except OsError Unit) :=
  h.makeChain (FileName.ancestors name).dropLast

def directoryOf? (name : String) : Option String :=
  (FileName.parent? name).filter fun directory => !directory.isEmpty

/-- What went wrong when a file was written, with its cause. -/
inductive WriteError where
  | directory (name : String) (cause : OsError)
  | file (kind name : String) (cause : OsError)
deriving DecidableEq, Repr

def WriteError.chain : WriteError → List String
  | directory name cause => ["create directory: " ++ name, cause.message]
  | file kind name cause => ["write " ++ kind ++ ": " ++ name, cause.message]

def prepare (h : Host m) (name : String) : m (Except WriteError Unit) := do
  match directoryOf? name with
  | none => return .ok ()
  | some directory => return (← h.makeDirectories directory).mapError (.directory directory)

/-- Writes a file of some kind, with the directories on the way to it. -/
def writeFile (h : Host m) (kind name text : String) : m (Except WriteError Unit) := do
  match ← h.prepare name with
  | .error e => return .error e
  | .ok () => return (← h.writeText name text).mapError (.file kind name)

end ImportBoundary.Host
