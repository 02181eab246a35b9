import FleetQuery.Question.Filter
import FleetQuery.Question.GroupBy
import FleetQuery.Question.Limit
import FleetQuery.Question.OrderBy
import FleetQuery.Question.Projection
import FleetQuery.Question.Scope

/-!
# Queries

A question reads `Get <items> from <scope>` followed by clauses in any order. Filters add up; the
other clauses may come once. A query is the question with every label known to the catalog.
-/
namespace FleetQuery

structure Query where
  columns : List Column
  aggregations : List AggregateCall
  scope : Scope
  filters : List Filter
  groupBy : Option GroupBy
  orderBy : Option OrderBy
  limit : Option Nat
  warnings : List Warning
deriving DecidableEq

namespace Query

def isAggregate (query : Query) : Bool := !query.aggregations.isEmpty

/-- The direction of the order, which is ascending unless asked otherwise. -/
def direction (query : Query) : String :=
  (query.orderBy.map OrderBy.direction).getD (OrderBy.directionName true)

/-! ### Clauses -/

/-- The query with one more clause. -/
def addClause (catalog : Catalog) (window : Window) (query : Query) (clause : Clause)
    (segment : Clause.Segment) : Except ParseError Query :=
  match clause with
  | .groupBy =>
    (GroupBy.ofSegment catalog window segment).map fun groupBy =>
      { query with groupBy := some groupBy }
  | .orderBy =>
    (OrderBy.ofSegment catalog window segment).map fun orderBy =>
      { query with orderBy := some orderBy }
  | .limit =>
    (Limit.ofSegment window segment).map fun limit => { query with limit := some limit }
  | .withFilter | .whereFilter =>
    (Filter.ofSegment catalog window segment).map fun filters =>
      { query with
        filters := query.filters ++ filters
        warnings := query.warnings ++ filters.filterMap Filter.warning? }

/-- Reads clauses up to the end of the window. `seen` are the clauses that must not come again. -/
def readClauses (catalog : Catalog) (window : Window) (query : Query) (seen : List Clause)
    (position : Nat) : Reading Query :=
  if window.stop ≤ position then ⟨.ok query, position⟩
  else
    match Clause.detect? window position with
    | none => ⟨.error (Clause.unsupported window position), position⟩
    | some clause =>
      if clause ∈ seen then
        ⟨.error (.locate window (.repeatedClause clause.name)
          (.between position (position + clause.name.length))), position⟩
      else
        match _found : Clause.segment? window clause position with
        | none => ⟨.error (Clause.missing window clause position), position⟩
        | some segment =>
          match addClause catalog window query clause segment with
          | .error error => ⟨.error error, segment.next⟩
          | .ok extended =>
            readClauses catalog window extended
              (if clause.isRepeatable then seen else clause :: seen) segment.next
termination_by window.stop - position
decreasing_by
  have next := Clause.segment_next _found
  have := Clause.keyword_length_pos clause
  omega

/-! ### Whole questions -/

/-- Warnings about parts of a query that have no effect. -/
def shapeWarnings (query : Query) : List Warning :=
  (match query.groupBy with
    | some groupBy =>
      if query.isAggregate then [] else [⟨.groupWithoutAggregation groupBy.column.label, groupBy.span⟩]
    | none => []) ++
  (if query.isAggregate then
    query.columns.map fun column => ⟨.columnBesideAggregation column.label, column.span⟩
  else [])

def withShapeWarnings (query : Query) : Query :=
  { query with warnings := query.warnings ++ query.shapeWarnings }

/-- The query without clauses. -/
def ofParts (projection : Projection) (scope : Scope) (warnings : List Warning) : Query where
  columns := projection.columns
  aggregations := projection.aggregations
  scope := scope
  filters := []
  groupBy := none
  orderBy := none
  limit := none
  warnings := warnings

/-- The error for a text that does not begin with `get`; it shows the first word. -/
def missingGet (window : Window) (position : Nat) : ParseError :=
  let wordEnd := (firstIn position window.stop window.blankAt).getD window.stop
  .locate window .missingGet (.between position (max wordEnd (position + 1)))

/-- Reads a question from `position` on. -/
def read (catalog : Catalog) (window : Window) (position : Nat) : Reading Query :=
  let start := window.skipAhead position
  if Keyword.get.matchesAt window start then
    -- the blank after the word may be the one that opens ` from `
    let projection := Projection.read catalog window (window.jump start (Keyword.get.length - 1))
    match projection.outcome with
    | .error error => ⟨.error error, projection.position⟩
    | .ok items =>
      let scope := Scope.read catalog window projection.position
      match scope.outcome with
      | .error error => ⟨.error error, scope.position⟩
      | .ok (selection, warnings) =>
        let query :=
          readClauses catalog window (ofParts items selection warnings) [] scope.position
        ⟨query.outcome.map withShapeWarnings, query.position⟩
  else ⟨.error (missingGet window start), start⟩

/-- The query of a question. -/
def parse (catalog : Catalog) (question : String) : Except ParseError Query :=
  let window := Window.ofText question
  (read catalog window window.start).outcome

end Query
end FleetQuery
