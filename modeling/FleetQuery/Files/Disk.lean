import FleetQuery.Files

/-!
# A disk in memory

A tree of directories and text files. Paths are taken from its root, one dot stays where it is,
and two dots go one directory up, the root lying in itself. Names and paths have a greatest length.
-/
namespace FleetQuery

inductive Disk.Entry where
  | directory
  | file (text : String)
deriving DecidableEq

/-- The entries below the root, each under the names that lead to it. -/
structure Disk where
  entries : List (List String × Disk.Entry)
deriving DecidableEq

namespace Disk

def empty : Disk := ⟨[]⟩

instance : Inhabited Disk := ⟨empty⟩

/-- The entry at a place. -/
def entry? (disk : Disk) (place : List String) : Option Entry :=
  if place.isEmpty then some .directory
  else (disk.entries.find? fun entry => entry.1 == place).map Prod.snd

/-- Puts an entry at a place, instead of an earlier one. -/
def put (disk : Disk) (place : List String) (entry : Entry) : Disk :=
  ⟨(place, entry) :: disk.entries.filter fun other => other.1 != place⟩

/-- The place that a step leads to from a directory. -/
def enter (place : List String) (step : String) : List String :=
  if step = "." then place else if step = ".." then place.dropLast else place ++ [step]

/-- The number of bytes that one name may take. -/
def longestName : Nat := 255

/-- The number of bytes that a path may take as a whole. -/
def longestPath : Nat := 4095

/-- The place that steps lead to from `place`. Each one has to be taken from a directory. -/
def follow (disk : Disk) (place : List String) : List String → Except FileError (List String)
  | [] => .ok place
  | step :: rest =>
    match disk.entry? place with
    | none => .error .notFound
    | some (.file _) => .error .notADirectory
    | some .directory =>
      if longestName < step.utf8ByteSize then .error .nameTooLong
      else follow disk (enter place step) rest

/-- Whether a path can only be that of a directory. -/
def endsInSlash (path : String) : Bool := path.toList.getLast? == some '/'

/-- The steps of a path, if it may be used at all. -/
def route (path : String) : Except FileError (List String) :=
  if path.toList.contains '\x00' then .error .nulInName
  else if path.isEmpty then .error .notFound
  else if longestPath < path.utf8ByteSize then .error .nameTooLong
  else .ok (Path.steps path)

def place (disk : Disk) (path : String) : Except FileError (List String) := do
  disk.follow [] (← route path)

/-- The entry that a path leads to. -/
def lookup (disk : Disk) (path : String) : Except FileError (Option Entry) := do
  let place ← disk.place path
  match disk.entry? place with
  | some (.file _) =>
    if endsInSlash path then throw .notADirectory else return disk.entry? place
  | entry => return entry

def fileExists (disk : Disk) (path : String) : Bool :=
  match disk.lookup path with
  | .ok (some _) => true
  | _ => false

def isDirectory (disk : Disk) (path : String) : Bool :=
  match disk.lookup path with
  | .ok (some .directory) => true
  | _ => false

def readText (disk : Disk) (path : String) : Except FileError String :=
  match disk.lookup path with
  | .error error => .error error
  | .ok none => .error .notFound
  | .ok (some .directory) => .error .isADirectory
  | .ok (some (.file text)) => .ok text

/-- Replaces the text at a path. One that ends in a slash is taken for that of a directory, whatever
lies there, once the steps before its last one have led to a directory. -/
def writeText (disk : Disk) (path text : String) : Except FileError Disk := do
  let steps ← route path
  if endsInSlash path then
    let _ ← disk.follow [] (steps.dropLast ++ ["."])
    throw .isADirectory
  else
    let place ← disk.follow [] steps
    match disk.entry? place with
    | some .directory => throw .isADirectory
    | _ => return disk.put place (.file text)

def createDirectory (disk : Disk) (path : String) : Except FileError Disk := do
  let place ← disk.place path
  match disk.entry? place with
  | some _ => throw .alreadyExists
  | none => return disk.put place .directory

/-- Keeps the old disk if a change fails. -/
def attempt (change : Disk → Except FileError Disk) : StateM Disk (Except FileError Unit) :=
  fun disk =>
    match change disk with
    | .ok changed => (.ok (), changed)
    | .error error => (.error error, disk)

instance : Files (StateM Disk) where
  fileExists path := fun disk => (disk.fileExists path, disk)
  isDirectory path := fun disk => (disk.isDirectory path, disk)
  readText path := fun disk => (disk.readText path, disk)
  writeText path text := attempt fun disk => disk.writeText path text
  createDirectory path := attempt fun disk => disk.createDirectory path

end Disk
end FleetQuery
