import FleetQuery.Files
import FleetQuery.Json.Printer
import FleetQuery.Json.Tree
import FleetQuery.Text.LowerCase

/-!
# Saved questions

The registry keeps questions under names, which are told apart without regard to case. It lives in
one JSON file that is read and written as a whole. A file that is missing or cannot be read counts as
an empty registry.
-/
namespace FleetQuery

structure SavedQuestion where
  name : String
  question : String
  savedAt : String
deriving DecidableEq

namespace SavedQuestion

/-- Whether the question is saved under `name`. -/
def isNamed (saved : SavedQuestion) (name : String) : Bool :=
  Text.lower saved.name == Text.lower name

def toJson (saved : SavedQuestion) : Json :=
  .object [("name", .string saved.name), ("question", .string saved.question),
    ("savedAt", .string saved.savedAt)]

def ofTree? (tree : Json.Tree) : Option SavedQuestion := do
  let fields ← tree.record? ["name", "question", "savedAt"]
  let name ← (← fields.lookup "name").text?
  let question ← (← fields.lookup "question").text?
  let savedAt ← (← fields.lookup "savedAt").text?
  return ⟨name, question, savedAt⟩

end SavedQuestion

structure Registry where
  questions : List SavedQuestion
deriving DecidableEq

namespace Registry

def empty : Registry := ⟨[]⟩

instance : Inhabited Registry := ⟨empty⟩

def find? (registry : Registry) (name : String) : Option SavedQuestion :=
  registry.questions.find? fun saved => saved.isNamed name

/-- Replaces the first question saved under the name, or adds a new one. -/
def insertQuestion (question : SavedQuestion) : List SavedQuestion → List SavedQuestion
  | [] => [question]
  | saved :: rest =>
    if saved.isNamed question.name then question :: rest
    else saved :: insertQuestion question rest

def insert (registry : Registry) (question : SavedQuestion) : Registry :=
  ⟨insertQuestion question registry.questions⟩

/-! ### The file -/

def toJson (registry : Registry) : Json :=
  .object [("saved", .array (registry.questions.map SavedQuestion.toJson))]

def toText (registry : Registry) : String := registry.toJson.indented

def ofTree? (tree : Json.Tree) : Option Registry := do
  let fields ← tree.record? ["saved"]
  match fields.lookup "saved" with
  | none => return empty
  | some (.array items) => return ⟨← items.mapM SavedQuestion.ofTree?⟩
  | some _ => none

def ofText? (text : String) : Option Registry := (Json.Tree.ofText? text).bind ofTree?

section Files

variable {m : Type → Type} [Monad m] [Files m]

/-- The registry in the file at `path`. -/
def load (path : String) : m Registry := do
  if ← Files.fileExists path then
    match ← Files.readText path with
    | .ok text => return (ofText? text).getD empty
    | .error _ => return empty
  else return empty

def save (path : String) (registry : Registry) : m (Except FileError Unit) :=
  Files.writeInDirectory path registry.toText

/-- Saves a question in the file at `path`. -/
def upsert (path : String) (question : SavedQuestion) : m (Except FileError SavedQuestion) := do
  let registry ← load path
  match ← save path (registry.insert question) with
  | .ok () => return .ok question
  | .error error => return .error error

end Files

end Registry
end FleetQuery
