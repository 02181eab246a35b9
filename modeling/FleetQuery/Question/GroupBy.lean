import FleetQuery.Question.Clause
import FleetQuery.Question.Column

/-!
# Grouping

The column whose values partition the machines before they are aggregated.
-/
namespace FleetQuery

structure GroupBy where
  column : Column
  /-- The keyword together with the column. -/
  span : Span
deriving DecidableEq

namespace GroupBy

def ofSegment (catalog : Catalog) (window : Window) (segment : Clause.Segment) :
    Except ParseError GroupBy :=
  if segment.body.isEmpty then .error (.locate window .missingGroupColumn segment.keyword)
  else
    let column := Column.ofSpan window segment.body
    (column.known window catalog (.unknownGroupColumn column.label)).map fun column =>
      ⟨column, .between segment.keyword.start segment.body.stop⟩

def read (catalog : Catalog) (window : Window) (position : Nat) : Reading GroupBy :=
  Clause.take window .groupBy position (ofSegment catalog window)

end GroupBy
end FleetQuery
