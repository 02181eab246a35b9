import FleetQuery.Question.Query
import FleetQuery.Text.Quoted

/-!
# Descriptions of queries

One line that shows all parts of a query, for logs.
-/
namespace FleetQuery

def Filter.describe (filter : Filter) : String :=
  filter.label ++ " " ++ filter.operator.phrase ++ " " ++ Text.quoted filter.value

namespace Query

def describeLimit : Option Nat → String
  | some limit => "Some(" ++ toString limit ++ ")"
  | none => "None"

def describe (query : Query) : String :=
  let columns := String.intercalate ", " (query.columns.map Column.label)
  let aggregations := String.intercalate ", " (query.aggregations.map AggregateCall.header)
  let filters := String.intercalate " and " (query.filters.map Filter.describe)
  let groupBy := (query.groupBy.map fun groupBy => groupBy.column.label).getD "None"
  let orderBy :=
    (query.orderBy.map fun order => order.column.label ++ " " ++ order.direction).getD "None"
  "ParsedQuery(columns=[" ++ columns ++ "], aggregations=[" ++ aggregations ++ "], scope=" ++
    query.scope.label ++ ", filters=[" ++ filters ++ "], group_by=" ++ groupBy ++ ", order_by=" ++
    orderBy ++ ", limit=" ++ describeLimit query.limit ++ ")"

end Query

/-- The columns with their places. -/
def Column.describeAll (columns : List Column) : String :=
  "[" ++ String.intercalate ", " (columns.map Column.describe) ++ "]"

end FleetQuery
