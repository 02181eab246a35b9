import FleetQuery.Calendar
import FleetQuery.CommandLine
import Std.Time.DateTime.Timestamp

/-!
# Program

The command line on the files of the machine that it runs on.
-/
namespace FleetQuery

/-- The error of the operating system in the terms of the engine. -/
def FileError.ofSystem : IO.Error → FileError
  | .noFileOrDirectory .. => .notFound
  | .alreadyExists .. => .alreadyExists
  | .inappropriateType _ 21 _ => .isADirectory
  | .inappropriateType .. => .notADirectory
  | .invalidArgument _ 36 _ => .nameTooLong
  | .userError _ => .notText
  | error => .other (toString error)

/-- The result of a file operation, its error caught. -/
def attemptFile {α : Type} (action : IO α) : IO (Except FileError α) := do
  try return .ok (← action)
  catch error => return .error (.ofSystem error)

instance : Files IO where
  fileExists path := do
    match ← attemptFile (IO.FS.Handle.mk path .read) with
    | .ok _ => return true
    | .error error => return !([.notFound, .notADirectory, .nameTooLong].contains error)
  isDirectory path := do
    match ← attemptFile (IO.FS.Handle.mk (path ++ "/") .read) with
    | .ok _ => return true
    | .error _ => return false
  readText path := attemptFile (IO.FS.readFile path)
  writeText path text := attemptFile (IO.FS.writeFile path text)
  createDirectory path := attemptFile (IO.FS.createDir path)

end FleetQuery

def main (arguments : List String) : IO UInt32 := do
  let seconds := (← Std.Time.Timestamp.now).toSecondsSinceUnixEpoch
  let outcome ← FleetQuery.CommandLine.run arguments (FleetQuery.Calendar.stamp seconds.val)
  IO.print outcome.output
  return UInt32.ofNat outcome.exitCode
