import ImportBoundary.CommandLine.Program
import Std.Time.DateTime.Timestamp

/-!
# The command line program

The program on the machine it runs on.

`machine` answers the questions of the library from the files of the machine. The errors of the
operating system are told apart as far as the library has texts of its own for them.
-/

namespace ImportBoundary

def OsError.ofIO : IO.Error → OsError
  | .noFileOrDirectory .. => .noEntry
  | .alreadyExists .. => .alreadyExists
  | .inappropriateType _ _ details =>
    if details.toLower = "is a directory" then .isDirectory else .notDirectory
  | .permissionDenied _ code details => .other (details ++ " (os error " ++ toString code ++ ")")
  | e => .other (toString e)

def attempt {α : Type} (act : IO α) : IO (Except OsError α) := do
  try return .ok (← act)
  catch e => return .error (OsError.ofIO e)

/-- The machine. A directory is recognised by the name `.` in it. -/
def machine : Host IO where
  canonical? name := do
    match ← attempt (IO.FS.realPath name) with
    | .error _ => return none
    | .ok path =>
      -- A name that is no text is not found again under the text that stands for it.
      return if (← attempt (IO.FS.realPath path)).isOk then some path.toString else none
  isThere name := do
    -- A way that cannot be followed back to the top may still lead somewhere.
    return (← attempt (IO.FS.realPath name)).isOk || (← attempt (IO.FS.Handle.mk name .read)).isOk
  readText name := attempt (IO.FS.readFile name)
  writeText name text := attempt (IO.FS.writeFile name text)
  makeDirectory name := attempt (IO.FS.createDir name)
  isDirectory name := do return (← attempt (IO.FS.realPath (FileName.join name "."))).isOk
  now := do
    let time := (← Std.Time.Timestamp.now).val
    return (Timestamp.ofEpoch? time.second.val.toNat time.nano.val.toNat).getD .epoch

end ImportBoundary

/-- Runs the program and leaves with its exit code. -/
def main (arguments : List String) : IO UInt32 := do
  let outcome ← ImportBoundary.CommandLine.run ImportBoundary.machine arguments
  IO.print outcome.output
  IO.eprint outcome.errors
  return outcome.code.toUInt32
