import FleetQuery.Question.Column

/-!
# Aggregate calls

An aggregation such as `avg(cpu percent)` names a function and, between parentheses, at most one
column.
-/
namespace FleetQuery

inductive Aggregate where
  | count
  | sum
  | avg
  | min
  | max
deriving DecidableEq

namespace Aggregate

def all : List Aggregate := [count, avg, sum, min, max]

def name : Aggregate → String
  | count => "count"
  | sum => "sum"
  | avg => "avg"
  | min => "min"
  | max => "max"

/-- The text that heads the result of a call on `label`. -/
def header (aggregate : Aggregate) (label : String) : String :=
  aggregate.name ++ "(" ++ label ++ ")"

end Aggregate

structure AggregateCall where
  aggregate : Aggregate
  target : Option Column
deriving DecidableEq

/-- The call as it heads its result, the target as it was written. -/
def AggregateCall.header (call : AggregateCall) : String :=
  call.aggregate.header ((call.target.map Column.label).getD "")

end FleetQuery
