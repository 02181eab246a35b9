import FleetQuery.Catalog
import FleetQuery.Failure
import FleetQuery.Json.Tree

/-!
# Configuration

Settings of the engine, kept in a JSON file. Every key may be left out and has a default; a file that
is missing leaves out all of them.
-/
namespace FleetQuery

structure Config where
  /-- The inventory file; the sample is used without one. -/
  inventoryPath : Option String
  /-- The file of saved questions. -/
  savedPath : String
  /-- Where result files with a relative path go. -/
  downloadsDirectory : String
  /-- The column of a question that asks for none. -/
  defaultColumn : String
  /-- Group aliases over the standard ones. -/
  groupAliases : KeyedList String

namespace Config

def standard : Config where
  inventoryPath := none
  savedPath := "saved_questions.json"
  downloadsDirectory := "downloads"
  defaultColumn := "Computer Name"
  groupAliases := .empty

instance : Inhabited Config := ⟨standard⟩

/-- The standard catalog with the aliases of the configuration. -/
def catalog (config : Config) : Catalog :=
  Catalog.standard.withGroups config.groupAliases.entries

/-- Where a result file goes. -/
def outputPath (config : Config) (path : String) : String :=
  Path.join config.downloadsDirectory path

/-! ### The file -/

def keys : List String :=
  ["inventory_path", "saved_path", "downloads_dir", "default_column", "group_aliases"]

def toJson (config : Config) : Json :=
  .object
    [("inventory_path", .ofOption .string config.inventoryPath),
     ("saved_path", .string config.savedPath),
     ("downloads_dir", .string config.downloadsDirectory),
     ("default_column", .string config.defaultColumn),
     ("group_aliases",
       .object (config.groupAliases.entries.map fun entry => (entry.1, .string entry.2)))]

def optionalText? : Json.Tree → Option (Option String)
  | .null => some none
  | tree => tree.text?.map some

def alias? (member : Option String × Json.Tree) : Option (String × String) := do
  return (← member.1, ← member.2.text?)

def aliases? : Json.Tree → Option (KeyedList String)
  | .object members => (members.mapM alias?).map .ofList
  | _ => none

/-- The value of a field, or its default if the field is missing. -/
def fieldOr {α : Type} (fields : List (String × Json.Tree)) (key : String) (default : α)
    (read : Json.Tree → Option α) : Option α :=
  match fields.lookup key with
  | some tree => read tree
  | none => some default

def ofTree? (tree : Json.Tree) : Option Config := do
  let fields ← tree.record? keys
  return {
    inventoryPath := ← fieldOr fields "inventory_path" standard.inventoryPath optionalText?
    savedPath := ← fieldOr fields "saved_path" standard.savedPath Json.Tree.text?
    downloadsDirectory :=
      ← fieldOr fields "downloads_dir" standard.downloadsDirectory Json.Tree.text?
    defaultColumn := ← fieldOr fields "default_column" standard.defaultColumn Json.Tree.text?
    groupAliases := ← fieldOr fields "group_aliases" standard.groupAliases aliases? }

def toText (config : Config) : String := config.toJson.indented

def ofText? (text : String) : Option Config := (Json.Tree.ofText? text).bind ofTree?

section Files

variable {m : Type → Type} [Monad m] [Files m]

/-- The configuration in the file at `path`. -/
def load (path : String) : m (Except Failure Config) := do
  if ← Files.fileExists path then
    match ← Files.readText path with
    | .error error => return .error (.file error)
    | .ok text =>
      match ofText? text with
      | some config => return .ok config
      | none => return .error .malformedJson
  else return .ok standard

def save (path : String) (config : Config) : m (Except FileError Unit) :=
  Files.writeInDirectory path config.toText

end Files

end Config
end FleetQuery
