import FleetQuery.Catalog
import FleetQuery.Question.ParseError

/-!
# Columns

A column is a field label as it was written, with its place in the question.
-/
namespace FleetQuery

structure Column where
  label : String
  span : Span
deriving DecidableEq

namespace Column

def ofSpan (window : Window) (span : Span) : Column := ⟨window.textOf span, span⟩

/-- The column itself if the catalog knows its label. -/
def known (column : Column) (window : Window) (catalog : Catalog) (cause : ParseError.Cause) :
    Except ParseError Column :=
  if (catalog.field? column.label).isSome then .ok column
  else .error (.locate window cause column.span)

/-- The label with its place. -/
def describe (column : Column) : String :=
  column.label ++ "@" ++ toString column.span.start ++ ".." ++ toString column.span.stop

end Column
end FleetQuery
