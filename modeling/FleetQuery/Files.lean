/-!
# Files

What the engine needs of a file system, and why an operation on it may fail. Each operation of
`Files` either takes effect as a whole or fails. The directories that a file lies in are made one
by one, so that a failure keeps those made before it.
-/
namespace FleetQuery

inductive FileError where
  | notFound
  | alreadyExists
  | notADirectory
  | isADirectory
  | nameTooLong
  | nulInName
  | notText
  | other (description : String)
deriving DecidableEq

/-- The wording of the operating system, with its number for the error. -/
def FileError.message : FileError → String
  | notFound => "No such file or directory (os error 2)"
  | alreadyExists => "File exists (os error 17)"
  | notADirectory => "Not a directory (os error 20)"
  | isADirectory => "Is a directory (os error 21)"
  | nameTooLong => "File name too long (os error 36)"
  | nulInName => "file name contained an unexpected NUL byte"
  | notText => "stream did not contain valid UTF-8"
  | other description => description

/-- A context in which files can be used by path. -/
class Files (m : Type → Type) where
  /-- Whether a path leads to anything. -/
  fileExists : String → m Bool
  isDirectory : String → m Bool
  readText : String → m (Except FileError String)
  /-- Replaces the content of a file, or makes one in an existing directory. -/
  writeText : String → String → m (Except FileError Unit)
  /-- Makes a directory in an existing one. -/
  createDirectory : String → m (Except FileError Unit)

namespace Path

def isAbsolute (path : String) : Bool := path.toList.head? == some '/'

/-- What stands between the slashes of a path. -/
def pieces (path : String) : List String := (path.toList.splitOn '/').map String.ofList

/-- The steps of a path. Repeated slashes stand for one. -/
def steps (path : String) : List String := (pieces path).filter (· != "")

/-- The path `path` taken from the directory `base`; an absolute one stays as it is. -/
def join (base path : String) : String :=
  if isAbsolute path || base.isEmpty then path
  else if base.toList.getLast? == some '/' then base ++ path
  else base ++ "/" ++ path

/-- What lies on the way of a path, itself first, with the pieces between its slashes given from the
last one backward. A piece that is empty or a single dot leads nowhere new. -/
def backward : List String → List String
  | [] => []
  | piece :: before =>
    if piece = "" ∨ piece = "." then backward before
    else String.intercalate "/" (piece :: before).reverse :: backward before

/-- The directories that a path lies in, as it spells them, the innermost first. -/
def parents (path : String) : List String := (backward (pieces path).reverse).tail

end Path

namespace Files

variable {m : Type → Type} [Monad m] [Files m]

/-- Makes a directory unless there is one already. -/
def ensureDirectory (path : String) : m (Except FileError Unit) := do
  match ← createDirectory path with
  | .ok () => return .ok ()
  | .error error => if ← isDirectory path then return .ok () else return .error error

/-- Makes the first of some directories, each of which lies in the next one. The others are tried
only if nothing is found around it, and stay even if it cannot be made in the end. -/
def ensureDirectories : List String → m (Except FileError Unit)
  | [] => return .ok ()
  | path :: around => do
    match ← ensureDirectory path with
    | .error .notFound =>
      match ← ensureDirectories around with
      | .ok () => ensureDirectory path
      | .error error => return .error error
    | result => return result

/-- Writes a file and makes the directories that it lies in first. -/
def writeInDirectory (path text : String) : m (Except FileError Unit) := do
  match ← ensureDirectories (Path.parents path) with
  | .ok () => writeText path text
  | .error error => return .error error

end Files
end FleetQuery
