import FleetQuery.Config
import FleetQuery.Loading
import FleetQuery.Registry
import FleetQuery.Table.Csv

/-!
# Engine

The engine answers questions about one inventory under one configuration, and carries out
invocations: to ask a question or a saved one, to save it, to list what is saved, and to write the
result to a file. An invocation always has a payload, which tells of a failure if there was one.
-/
namespace FleetQuery

structure Engine where
  config : Config
  inventory : Inventory

/-- A question with its query and the table that answers it. -/
structure Answer where
  question : String
  query : Query
  execution : Execution

/-- What an invocation adds to an answer. -/
structure Attachments where
  saved : Option SavedQuestion
  csv : Option String
  outputFile : Option String

/-- One request to the engine. -/
structure Invocation where
  question : Option String
  /-- Save the question under this name once it is answered. -/
  save : Option String
  /-- Ask the question saved under this name. -/
  runSaved : Option String
  listSaved : Bool
  /-- Attach the table as comma-separated values. -/
  csv : Bool
  /-- Write the result to this file. -/
  outputFile : Option String
deriving DecidableEq

def Invocation.none : Invocation := ⟨.none, .none, .none, false, false, .none⟩

/-! ### Results as JSON -/

def Counts.toJson (counts : Counts) : Json :=
  .object [("scoped", .ofNat counts.inScope), ("filtered", .ofNat counts.filtered)]

def Warning.toJson (warning : Warning) : Json :=
  .object [("message", .string warning.message), ("start", .ofNat warning.span.start),
    ("end", .ofNat warning.span.stop)]

/-- The parts of a query that a result repeats. -/
def Query.metadata (query : Query) : Json :=
  .object
    [("aggregations", .ofTexts (query.aggregations.map fun call => call.aggregate.name)),
     ("groupBy", .ofOption (fun groupBy : GroupBy => .string groupBy.column.label) query.groupBy),
     ("orderBy", .ofOption (fun orderBy : OrderBy => .string orderBy.column.label) query.orderBy),
     ("orderDir", .string query.direction),
     ("limit", .ofOption .ofNat query.limit),
     ("scope", .string query.scope.label)]

def Attachments.none : Attachments := ⟨.none, .none, .none⟩

/-- A member that is left out if there is no value. -/
def optionalMember (name : String) (value : Option Json) : List (String × Json) :=
  (value.map fun value => (name, value)).toList

def Attachments.members (attachments : Attachments) : List (String × Json) :=
  optionalMember "saved" (attachments.saved.map SavedQuestion.toJson) ++
  optionalMember "csv" (attachments.csv.map .string) ++
  optionalMember "outputFile" (attachments.outputFile.map .string)

def Answer.toJson (answer : Answer) (attachments : Attachments) : Json :=
  let table := answer.execution.table
  .object <|
    [("ok", .bool true),
     ("question", .string answer.question),
     ("headers", .ofTexts table.headers),
     ("rows", .array (table.rows.map .array)),
     ("rowCount", .ofNat table.rows.length),
     ("execution", answer.execution.counts.toJson),
     ("warnings", .array (answer.query.warnings.map Warning.toJson)),
     ("metadata", answer.query.metadata)] ++ attachments.members

/-- The payload of a question that failed. -/
def Failure.payload (failure : Failure) (question : String) : Json :=
  .object
    [("ok", .bool false),
     ("error", .string (if failure.isOfQuestion then failure.message
       else "Simulator failure: " ++ failure.message)),
     ("error_pos", .ofOption .ofNat failure.position?),
     ("question", .string question)]

/-- The payload of a request that names no question. -/
def refusal (message : String) : Json := .object [("ok", .bool false), ("error", .string message)]

namespace Engine

def catalog (engine : Engine) : Catalog := engine.config.catalog

/-- Answers a question. -/
def ask (engine : Engine) (question : String) : Except Failure Answer := do
  let query ← (Query.parse engine.catalog question).mapError .question
  let plan ←
    (Plan.ofQuery query engine.catalog engine.config.defaultColumn).mapError .unknownColumn
  let execution ← (plan.execute engine.inventory).mapError .execution
  return ⟨question, query, execution⟩

/-! ### Invocations -/

section Files

variable {m : Type → Type} [Monad m] [Files m]

/-- The machines in the file at `path`. -/
def loadInventory (path : String) : m (Except Failure Inventory) := do
  let (result, inventory) ← (Inventory.loadFile path).run .empty
  return result.map fun _ => inventory

/-- The engine of a configuration. -/
def ofConfig (config : Config) : m (Except Failure Engine) := do
  match config.inventoryPath with
  | none => return .ok ⟨config, .sample⟩
  | some path => return (← loadInventory path).map fun inventory => ⟨config, inventory⟩

/-- Saves the question if a name is given. -/
def saveQuestion (engine : Engine) (name : Option String) (question now : String) :
    m (Except Failure (Option SavedQuestion)) := do
  match name with
  | none => return .ok none
  | some name =>
    return ((← Registry.upsert engine.config.savedPath ⟨name, question, now⟩).map some).mapError
      .file

/-- Writes the result if a file is given, and says where. -/
def writeResult (engine : Engine) (path : Option String) (result : Json) :
    m (Except Failure (Option String)) := do
  match path with
  | none => return .ok none
  | some path =>
    let path := engine.config.outputPath path
    return ((← Files.writeInDirectory path result.indented).map fun _ => some path).mapError .file

/-- Answers a question and carries out what the invocation asks for besides. -/
def answer (engine : Engine) (question : String) (invocation : Invocation) (now : String) :
    m (Except Failure Json) := do
  match engine.ask question with
  | .error failure => return .error failure
  | .ok answer =>
    match ← engine.saveQuestion invocation.save question now with
    | .error failure => return .error failure
    | .ok saved =>
      let csv := if invocation.csv then some answer.execution.table.toCsv else none
      let attachments : Attachments := ⟨saved, csv, none⟩
      match ← engine.writeResult invocation.outputFile (answer.toJson attachments) with
      | .error failure => return .error failure
      | .ok outputFile =>
        return .ok (answer.toJson { attachments with outputFile := outputFile })

/-- The question that an invocation asks, or why it asks none. -/
def questionOf (engine : Engine) (invocation : Invocation) : m (Except String String) := do
  match invocation.runSaved with
  | some name =>
    match (← Registry.load engine.config.savedPath).find? name with
    | some saved => return .ok saved.question
    | none => return .error ("No saved question named '" ++ name ++ "'.")
  | none =>
    match invocation.question with
    | some question =>
      if (Text.trimChars question.toList).isEmpty then return .error "Provide a question with -q."
      else return .ok question
    | none => return .error "Provide a question with -q."

/-- Carries out an invocation at the time `now`. -/
def invoke (engine : Engine) (invocation : Invocation) (now : String) : m Json := do
  if invocation.listSaved then
    let registry ← Registry.load engine.config.savedPath
    return .object
      [("ok", .bool true), ("saved", .array (registry.questions.map SavedQuestion.toJson))]
  else
    match ← engine.questionOf invocation with
    | .error message => return refusal message
    | .ok question =>
      match ← engine.answer question invocation now with
      | .ok payload => return payload
      | .error failure => return failure.payload question

end Files

end Engine
end FleetQuery
