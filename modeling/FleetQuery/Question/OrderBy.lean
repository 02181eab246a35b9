import FleetQuery.Question.Clause
import FleetQuery.Question.Column

/-!
# Order

The column by which the result is sorted, with an optional direction as the last word. The label is
kept with one blank between its words.
-/
namespace FleetQuery

structure OrderBy where
  column : Column
  ascending : Bool
deriving DecidableEq

namespace OrderBy

def directionName (ascending : Bool) : String := if ascending then "asc" else "desc"

def direction (order : OrderBy) : String := directionName order.ascending

/-- Where the last word of a span begins. -/
def lastWord (window : Window) (span : Span) : Nat :=
  ((lastIn span.start span.stop window.blankAt).map (· + 1)).getD span.start

/-- Whether the keyword is exactly the text from `start` to `stop`. -/
def isWord (window : Window) (keyword : Keyword) (start stop : Nat) : Bool :=
  start < stop && keyword.matchesAt window start && start + keyword.length == stop

/-- The part of the body that names the column, and the direction. -/
def splitDirection (window : Window) (body : Span) : Span × Bool :=
  let last := lastWord window body
  if isWord window .descending last body.stop then
    (window.trimSpan (.between body.start last), false)
  else if isWord window .ascending last body.stop then
    (window.trimSpan (.between body.start last), true)
  else (window.trimSpan body, true)

def ofSegment (catalog : Catalog) (window : Window) (segment : Clause.Segment) :
    Except ParseError OrderBy :=
  let (span, ascending) := splitDirection window segment.body
  if span.isEmpty then .error (.locate window .missingOrderColumn segment.keyword)
  else
    let column : Column := ⟨Text.squeeze (window.textOf span), span⟩
    (column.known window catalog (.unknownOrderColumn column.label)).map fun column =>
      ⟨column, ascending⟩

def read (catalog : Catalog) (window : Window) (position : Nat) : Reading OrderBy :=
  Clause.take window .orderBy position (ofSegment catalog window)

end OrderBy
end FleetQuery
