import FleetQuery.Aggregation
import FleetQuery.Inventory
import FleetQuery.Plan
import FleetQuery.Table

/-!
# Execution

A plan is executed on an inventory from the scan outwards. Along with the table the execution counts
the machines in scope and those left by the filters. A step that needs machines cannot follow one
that made a table, nor the other way round, and an aggregation needs a function of its name.
-/
namespace FleetQuery

/-! ### Machines and filters -/

/-- Whether the machine's group has exactly this name. -/
def Machine.isInGroup (machine : Machine) (group : String) : Bool :=
  machine.groupName == some group

/-- Whether `part` occurs in `chars`. -/
def containsChars (part : List Char) : List Char → Bool
  | [] => part.isEmpty
  | c :: rest => part.isPrefixOf (c :: rest) || containsChars part rest

/-- Whether a text, both sides in lower case, stands to the value as the operator says. -/
def FilterOperator.holdsOfText (operator : FilterOperator) (text value : List Char) : Bool :=
  match operator with
  | .contains => containsChars value text
  | .doesNotContain => !containsChars value text
  | .equals => text == value
  | .startsWith => value.isPrefixOf text
  | .greaterThan | .lessThan => false

/-- Whether the numbers of a cell and of the value stand in the order of the operator. -/
def FilterOperator.holdsOfNumber (operator : FilterOperator) (number value : Binary64) : Bool :=
  match operator with
  | .greaterThan => value.lt number
  | .lessThan => number.lt value
  | _ => false

/-- Whether a cell passes the filter. A missing cell passes none, and an order needs a number on both
sides. -/
def Filter.holdsOf (filter : Filter) (cell : Cell) : Bool :=
  if filter.operator.isNumeric then
    match cell.toNumber?, Cell.readNumber filter.value with
    | some number, some value => filter.operator.holdsOfNumber number value
    | _, _ => false
  else
    match cell.toText? with
    | some text =>
      filter.operator.holdsOfText (Text.lowerChars text.toList)
        (Text.lowerChars filter.value.toList)
    | none => false

def Filter.matches (filter : Filter) (machine : Machine) : Bool :=
  filter.holdsOf (machine.cell filter.field)

/-! ### Errors -/

/-- What stops an execution. -/
inductive ExecutionError where
  /-- The step needs machines. -/
  | needsMachines (step : String)
  /-- The step needs a table. -/
  | needsTable (step : String)
  /-- No function is registered under the name. -/
  | unsupportedAggregate (name : String)
  | tooManyCells (error : TooManyCells)
deriving DecidableEq

/-! ### Tables of machines -/

namespace Table

def ofColumns (columns : List HeadedField) (machines : List Machine) : Table where
  headers := columns.map HeadedField.header
  rows := machines.map fun machine => columns.map fun column => (machine.cell column.field).toJson

/-- The accumulator of a column before the first row, from the function under its name. -/
def startColumn (column : AggregateColumn) : Except ExecutionError Accumulator :=
  match AggregateRegistry.standard.get? column.aggregate.name with
  | some function => .ok function.start
  | none => .error (.unsupportedAggregate column.aggregate.name)

def startAll (columns : List AggregateColumn) : Except ExecutionError (List Accumulator) :=
  columns.mapM startColumn

/-- The cells of one machine that a column takes. -/
def columnCells (column : AggregateColumn) (machine : Machine) : List Cell :=
  match column.target with
  | some field => [machine.cell field]
  | none => []

def updateAll (columns : List AggregateColumn) (machine : Machine)
    (accumulators : List Accumulator) : Except ExecutionError (List Accumulator) :=
  (accumulators.zip columns).mapM fun pair =>
    (pair.1.update (columnCells pair.2 machine)).mapError .tooManyCells

/-- The accumulators of one value of the key. -/
structure Group where
  key : Option String
  accumulators : List Accumulator

/-- Adds a machine to the group of its key, which is started if there is none yet. -/
def addToGroup (columns : List AggregateColumn) (key : Option String) (machine : Machine) :
    List Group → Except ExecutionError (List Group)
  | [] => do return [⟨key, ← updateAll columns machine (← startAll columns)⟩]
  | group :: rest =>
    if group.key = key then do
      return ⟨key, ← updateAll columns machine group.accumulators⟩ :: rest
    else do return group :: (← addToGroup columns key machine rest)

/-- The key of a machine: the text of a field, or none without a field. -/
def keyOf (key : Option HeadedField) (machine : Machine) : Option String :=
  key.bind fun column => (machine.cell column.field).toText?

/-- The groups before the first machine: one if there is no key to group by. -/
def firstGroups (key : Option HeadedField) (columns : List AggregateColumn) :
    Except ExecutionError (List Group) :=
  match key with
  | none => do return [⟨none, ← startAll columns⟩]
  | some _ => return []

/-- Groups in the order in which their keys first came. -/
def groups (key : Option HeadedField) (columns : List AggregateColumn) (machines : List Machine) :
    Except ExecutionError (List Group) := do
  machines.foldlM (fun groups machine => addToGroup columns (keyOf key machine) machine groups)
    (← firstGroups key columns)

def groupRow (key : Option HeadedField) (group : Group) : List Json :=
  (if key.isSome then [Json.ofOption Json.string group.key] else []) ++
    group.accumulators.map Accumulator.result

def aggregated (key : Option HeadedField) (columns : List AggregateColumn)
    (machines : List Machine) : Except ExecutionError Table :=
  (groups key columns machines).map fun groups =>
    { headers := (key.map HeadedField.header).toList ++ columns.map AggregateColumn.header
      rows := groups.map (groupRow key) }

end Table

/-! ### Plans -/

/-- How many machines were in scope and passed the filters. -/
structure Counts where
  inScope : Nat
  filtered : Nat
deriving DecidableEq

inductive Relation where
  | machines (machines : List Machine)
  | table (table : Table)

def Relation.toMachines (step : String) : Relation → Except ExecutionError (List Machine)
  | machines found => .ok found
  | table _ => .error (.needsMachines step)

def Relation.toTable (step : String) : Relation → Except ExecutionError Table
  | table found => .ok found
  | machines _ => .error (.needsTable step)

structure Execution where
  table : Table
  counts : Counts

namespace Plan

/-- Executes a plan up to its last step. -/
def run (inventory : Inventory) : Plan → Except ExecutionError (Relation × Counts)
  | scan =>
    let size := inventory.machines.length
    .ok (.machines inventory.machines, ⟨size, size⟩)
  | scope input group => do
    let (relation, _) ← input.run inventory
    let machines ← relation.toMachines "scope"
    let kept := machines.filter fun machine => machine.isInGroup group
    return (.machines kept, ⟨kept.length, kept.length⟩)
  | filter input condition => do
    let (relation, counts) ← input.run inventory
    let machines ← relation.toMachines "filter"
    let kept := machines.filter condition.matches
    return (.machines kept, { counts with filtered := kept.length })
  | project input columns => do
    let (relation, counts) ← input.run inventory
    let machines ← relation.toMachines "project"
    return (.table (.ofColumns columns machines), counts)
  | aggregate input key columns => do
    let (relation, counts) ← input.run inventory
    let machines ← relation.toMachines "aggregate"
    let table ← Table.aggregated key columns machines
    return (.table table, counts)
  | sort input key ascending => do
    let (relation, counts) ← input.run inventory
    let table ← relation.toTable "sort"
    return (.table (table.sortBy key ascending), counts)
  | limit input rows => do
    let (relation, counts) ← input.run inventory
    let table ← relation.toTable "limit"
    return (.table (table.take rows), counts)

/-- Executes a plan that ends in a table. -/
def execute (plan : Plan) (inventory : Inventory) : Except ExecutionError Execution := do
  let (relation, counts) ← plan.run inventory
  let table ← relation.toTable "result"
  return ⟨table, counts⟩

end Plan
end FleetQuery
