import ImportBoundary.Time.Timestamp

/-!
# The host

What a program asks of the machine it runs on: reading and writing files by their names, making
directories, and the time. A host is a record of these operations in a monad, so the same program runs
on a real machine and on a disk that is only a value.

Whether something is there and what its absolute name is are two questions, since a machine may answer
the first one with yes and have no answer to the second. Errors come with the number that the operating
system gives them, because they are shown.
-/

namespace ImportBoundary

inductive OsError where
  | noEntry
  | alreadyExists
  | notDirectory
  | isDirectory
  | other (text : String)
deriving DecidableEq, Repr

def OsError.message : OsError → String
  | noEntry => "No such file or directory (os error 2)"
  | alreadyExists => "File exists (os error 17)"
  | notDirectory => "Not a directory (os error 20)"
  | isDirectory => "Is a directory (os error 21)"
  | other text => text

/-- The operations of a machine. -/
structure Host (m : Type → Type) where
  /-- The absolute name of something, without `.` and `..`. Something may be there and still have none:
  the way to it may be closed, or the name may be no text. -/
  canonical? : String → m (Option String)
  isThere : String → m Bool
  readText : String → m (Except OsError String)
  writeText : String → String → m (Except OsError Unit)
  makeDirectory : String → m (Except OsError Unit)
  isDirectory : String → m Bool
  now : m Timestamp

end ImportBoundary
