import ImportBoundary.Host.Basic
import ImportBoundary.Host.FileName

/-!
# A disk as a value

A disk holds directories and files under absolute names. Names are looked up segment by segment, and
every directory on the way has to be there. `Disk.host` offers the operations of a host, with the disk
as their state.

There are no links on such a disk, so `..` leads to the directory that stands before it in a name, once
what stands before it has been found to be a directory. A refused operation leaves the disk as it was
(`change`). Time stands still: `host` answers with the same time whenever it is asked.
-/

namespace ImportBoundary

inductive Disk.Entry where
  | directory
  | file (text : String)
deriving DecidableEq, Repr

/-- The files and directories of a machine, and the directory in which relative names are read. -/
structure Disk where
  workDirectory : List FileName.Segment
  entries : List (List FileName.Segment × Disk.Entry)
deriving DecidableEq, Repr

namespace Disk

open FileName (Segment)

/-- What has an absolute name. The root is always there. -/
def find? (d : Disk) (name : List Segment) : Option Entry :=
  if name = [] then some .directory else d.entries.lookup name

def put (d : Disk) (name : List Segment) (e : Entry) : Disk :=
  { d with entries := (name, e) :: d.entries.filter fun other => other.1 ≠ name }

/-- Follows segments from a directory. Only the last one may name something that is not there. -/
def walk (d : Disk) (position : List Segment) : List Segment → Except OsError (List Segment)
  | [] => .ok position
  | segment :: rest =>
    match d.find? position with
    | none => .error .noEntry
    | some (.file _) => .error .notDirectory
    | some .directory =>
      if segment = [] ∨ segment = ['.'] then walk d position rest
      else if segment = ['.', '.'] then walk d position.dropLast rest
      else walk d (position ++ [segment]) rest

def locate (d : Disk) (name : String) : Except OsError (List Segment) :=
  match name.toList with
  | [] => .error .noEntry
  | '/' :: rest => d.walk [] (Text.split '/' rest)
  | chars => d.walk d.workDirectory (Text.split '/' chars)

def entry (d : Disk) (name : String) : Except OsError (List Segment × Entry) := do
  let position ← d.locate name
  match d.find? position with
  | some e => return (position, e)
  | none => .error .noEntry

def spell (name : List Segment) : String := String.ofList ('/' :: List.intercalate ['/'] name)

def read (d : Disk) (name : String) : Except OsError String := do
  match ← d.entry name with
  | (_, .file text) => return text
  | (_, .directory) => .error .isDirectory

/-- Whether a name ends with a slash and so can only stand for a directory. -/
def endsWithSlash (name : String) : Bool := name.toList.getLast? = some '/'

def locateFile (d : Disk) (name : String) : Except OsError (List Segment) :=
  if endsWithSlash name then
    match (name.toList.reverse.dropWhile (· = '/')).reverse with
    | [] => .error .isDirectory
    | chars => do
      -- The way there is followed for its own refusals, which come first.
      let _ ← d.locate (String.ofList chars)
      .error .isDirectory
  else do
    let position ← d.locate name
    match d.find? position with
    | some .directory => .error .isDirectory
    | _ => return position

def locateNew (d : Disk) (name : String) : Except OsError (List Segment) := do
  let position ← d.locate name
  match d.find? position with
  | some _ => .error .alreadyExists
  | none => return position

def change (place : Except OsError (List Segment)) (e : Entry) :
    StateM Disk (Except OsError Unit) := do
  match place with
  | .error refusal => return .error refusal
  | .ok position =>
    modify fun d => d.put position e
    return .ok ()

/-- A machine with a disk, on which no time passes. -/
def host (time : Timestamp) : Host (StateM Disk) where
  canonical? name := do
    match (← get).entry name with
    | .ok (position, _) => return some (spell position)
    | .error _ => return none
  isThere name := do return ((← get).entry name).isOk
  readText name := do return (← get).read name
  writeText name text := do change ((← get).locateFile name) (.file text)
  makeDirectory name := do change ((← get).locateNew name) .directory
  isDirectory name := do
    match (← get).entry name with
    | .ok (_, .directory) => return true
    | _ => return false
  now := pure time

/-- A disk with a work directory and files below it; the directories on the way are there. -/
def ofFiles (workDirectory : List Segment) (files : List (List Segment × String)) : Disk :=
  let directories := (workDirectory :: files.map fun f => workDirectory ++ f.1.dropLast).flatMap
    fun name => (List.range (name.length + 1)).map name.take
  -- Directories first, so that none of them takes the place of a file.
  let made := directories.foldl (fun d name => d.put name .directory) ⟨workDirectory, []⟩
  files.foldl (fun d f => d.put (workDirectory ++ f.1) (.file f.2)) made

end Disk

end ImportBoundary
