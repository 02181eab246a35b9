import FleetQuery.Cell
import FleetQuery.KeyedList
import FleetQuery.Question.AggregateCall
import FleetQuery.Text.Order

/-!
# Aggregation

An accumulator takes one cell per machine and gives the value of its function at any time. Counting
takes every row, or every row with a cell; the other functions take the cells that have a number.
Results are rounded to thousandths, and without a number there is no result. An accumulator is started
by the function that is registered under the name of an aggregation.
-/
namespace FleetQuery

/-- An aggregate function was given more than one cell of a row. -/
structure TooManyCells where
  aggregate : Aggregate
deriving DecidableEq

def TooManyCells.message (error : TooManyCells) : String :=
  error.aggregate.name ++ "() takes at most one column"

/-- The state of an aggregate function over the rows so far. -/
inductive Accumulator where
  | count (rows : Nat)
  | sum (total : Option Binary64)
  | avg (total : Binary64) (values : Nat)
  | min (least : Option Binary64)
  | max (greatest : Option Binary64)
deriving DecidableEq

namespace Accumulator

def start : Aggregate → Accumulator
  | .count => count 0
  | .sum => sum none
  | .avg => avg (.zero false) 0
  | .min => min none
  | .max => max none

def aggregate : Accumulator → Aggregate
  | count _ => .count
  | sum _ => .sum
  | avg .. => .avg
  | min _ => .min
  | max _ => .max

/-- The state after one more number. The least and the greatest value give way only to a number
that is strictly beyond them. -/
def addNumber (accumulator : Accumulator) (value : Binary64) : Accumulator :=
  match accumulator with
  | count rows => count rows
  | sum total => sum (some ((total.getD (.zero false)).add value))
  | avg total values => avg (total.add value) (values + 1)
  | min none => min (some value)
  | min (some least) => min (some (if value.lt least then value else least))
  | max none => max (some value)
  | max (some greatest) => max (some (if greatest.lt value then value else greatest))

/-- The state after one more row without a cell. -/
def addRow : Accumulator → Accumulator
  | count rows => count (rows + 1)
  | other => other

/-- The state after one more cell. -/
def addCell (accumulator : Accumulator) (cell : Cell) : Accumulator :=
  match accumulator with
  | count rows => if cell.isNull then count rows else count (rows + 1)
  | other =>
    match cell.toNumber? with
    | some value => other.addNumber value
    | none => other

/-- The state after the cells of one more row, of which there is at most one. -/
def update (accumulator : Accumulator) : List Cell → Except TooManyCells Accumulator
  | [] => .ok accumulator.addRow
  | [cell] => .ok (accumulator.addCell cell)
  | _ :: _ :: _ => .error ⟨accumulator.aggregate⟩

/-- A number rounded, or null if there is none. -/
def optionalJson (value : Option Binary64) : Json := .ofOption Cell.roundedJson value

/-- The value of the function over the rows so far. -/
def result : Accumulator → Json
  | count rows => .ofNat rows
  | sum total => optionalJson total
  | avg total values =>
    if values = 0 then .null else Cell.roundedJson (total.div (.ofNat values))
  | min least => optionalJson least
  | max greatest => optionalJson greatest

end Accumulator

/-! ### Functions by their names -/

/-- How an aggregation is carried out: the name that it is found by, and its state before the first
row. -/
structure AggregateFunction where
  name : String
  start : Accumulator
deriving DecidableEq

/-- The functions that can be carried out, each under its name. -/
structure AggregateRegistry where
  functions : KeyedList AggregateFunction

namespace AggregateRegistry

def empty : AggregateRegistry := ⟨.empty⟩

/-- Adds a function, in the place of another one with its name. -/
def register (registry : AggregateRegistry) (function : AggregateFunction) : AggregateRegistry :=
  ⟨registry.functions.insert function.name function⟩

/-- The function of a name in any ASCII case. -/
def get? (registry : AggregateRegistry) (name : String) : Option AggregateFunction :=
  registry.functions.get? (Text.lowerAscii name)

/-- The names in alphabetical order. -/
def names (registry : AggregateRegistry) : List String :=
  registry.functions.keys.mergeSort fun left right => (Text.compareText left right).isLE

/-- The functions that an execution knows. -/
def standard : AggregateRegistry :=
  [⟨"count", .start .count⟩, ⟨"sum", .start .sum⟩, ⟨"avg", .start .avg⟩, ⟨"min", .start .min⟩,
    ⟨"max", .start .max⟩].foldl register empty

theorem get?_register (registry : AggregateRegistry) (function : AggregateFunction)
    (name : String) : (registry.register function).get? name =
      if Text.lowerAscii name = function.name then some function else registry.get? name :=
  registry.functions.get?_insert function.name (Text.lowerAscii name) function

end AggregateRegistry

namespace Aggregate

/-- The aggregation that a name in any ASCII case stands for. -/
def ofName? (name : String) : Option Aggregate :=
  (AggregateRegistry.standard.get? name).map fun function => function.start.aggregate

/-- The names that stand for an aggregation. -/
def names : List String := AggregateRegistry.standard.names

end Aggregate
end FleetQuery
