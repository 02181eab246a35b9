import FleetQuery.Question.AggregateCall
import FleetQuery.Question.Filter

/-!
# Plans

A plan computes a table from the inventory. Machines are scanned, restricted to a group and filtered;
then they become a table, by projection or by aggregation; then the table is sorted and cut.
-/
namespace FleetQuery

/-- A field under the header that its column has in the table. -/
structure HeadedField where
  header : String
  field : Field
deriving DecidableEq

/-- An aggregate call whose target is a field. -/
structure AggregateColumn where
  aggregate : Aggregate
  target : Option Field
  header : String
deriving DecidableEq

inductive Plan where
  /-- All machines of the inventory. -/
  | scan
  /-- The machines whose group has exactly this name. -/
  | scope (input : Plan) (group : String)
  | filter (input : Plan) (filter : Filter)
  /-- One row per machine. -/
  | project (input : Plan) (columns : List HeadedField)
  /-- One row per value of the key, or one row in all. -/
  | aggregate (input : Plan) (key : Option HeadedField) (columns : List AggregateColumn)
  /-- The rows in the order of the column headed `key`, if there is one. -/
  | sort (input : Plan) (key : String) (ascending : Bool)
  | limit (input : Plan) (rows : Nat)
deriving DecidableEq

namespace Plan

/-- The names of the steps, from the last one back to the scan. -/
def describe : Plan → List String
  | scan => ["scan"]
  | scope input _ => "scope" :: input.describe
  | filter input _ => "filter" :: input.describe
  | project input _ => "project" :: input.describe
  | aggregate input _ _ => "aggregate" :: input.describe
  | sort input _ _ => "sort" :: input.describe
  | limit input _ => "limit" :: input.describe

end Plan
end FleetQuery
