import FleetQuery.Plan
import FleetQuery.Question.Query

/-!
# Planning

The plan of a query filters before it tabulates and tabulates before it sorts and cuts. A query
without columns and aggregations shows a default column; a group by without aggregations has no part
in the plan.
-/
namespace FleetQuery

/-- A label of a plan that the catalog does not know. -/
structure UnknownLabel where
  label : String
deriving DecidableEq

namespace Plan

def resolve (catalog : Catalog) (label : String) : Except UnknownLabel Field :=
  match catalog.field? label with
  | some field => .ok field
  | none => .error ⟨label⟩

def headedField (catalog : Catalog) (label : String) : Except UnknownLabel HeadedField :=
  (resolve catalog label).map fun field => ⟨label, field⟩

def aggregateColumn (catalog : Catalog) (call : AggregateCall) :
    Except UnknownLabel AggregateColumn :=
  match call.target with
  | none => .ok ⟨call.aggregate, none, call.header⟩
  | some target =>
    (resolve catalog target.label).map fun field => ⟨call.aggregate, some field, call.header⟩

/-- The machines that a query is about. -/
def source (query : Query) : Plan :=
  let start := match query.scope.groupName? with
    | some group => scope scan group
    | none => scan
  query.filters.foldl filter start

/-- The labels of the columns of a query, or the default one. -/
def columnLabels (query : Query) (defaultColumn : String) : List String :=
  if query.columns.isEmpty then [defaultColumn] else query.columns.map Column.label

/-- The table of a query before it is sorted and cut. -/
def table (query : Query) (catalog : Catalog) (defaultColumn : String) :
    Except UnknownLabel Plan := do
  if query.isAggregate then
    let columns ← query.aggregations.mapM (aggregateColumn catalog)
    let key ← query.groupBy.mapM fun groupBy => headedField catalog groupBy.column.label
    return aggregate (source query) key columns
  else
    let columns ← (columnLabels query defaultColumn).mapM (headedField catalog)
    return project (source query) columns

def withOrder (plan : Plan) : Option OrderBy → Plan
  | some order => sort plan order.column.label order.ascending
  | none => plan

def withLimit (plan : Plan) : Option Nat → Plan
  | some rows => limit plan rows
  | none => plan

/-- The plan of a query. -/
def ofQuery (query : Query) (catalog : Catalog) (defaultColumn : String) :
    Except UnknownLabel Plan :=
  (table query catalog defaultColumn).map fun plan =>
    (plan.withOrder query.orderBy).withLimit query.limit

end Plan
end FleetQuery
