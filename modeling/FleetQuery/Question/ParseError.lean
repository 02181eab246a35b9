import FleetQuery.Question.Window

/-!
# Parse errors and warnings

An error names its cause, the span where it lies and the text of that span. A warning has a cause
and a span only: the question is answered all the same.
-/
namespace FleetQuery

namespace ParseError

inductive Kind where
  | malformedQuery
  | unsupportedClause
  | unknownField
  | invalidLimit
deriving DecidableEq

inductive Cause where
  | missingGet
  | missingFrom
  | missingScope
  | unknownColumn (label : String)
  | unknownCountColumn (label : String)
  | unknownAggregateColumn (label : String)
  | unknownGroupColumn (label : String)
  | unknownOrderColumn (label : String)
  | unknownFilterColumn (label : String)
  | missingGroupColumn
  | missingOrderColumn
  | unsupportedPredicate (text : String)
  /-- Text after the scope that opens no clause. -/
  | unsupportedText (beginning : String)
  | repeatedClause (name : String)
  | missingClause (name : String)
  | limitNotANumber
  | negativeLimit
deriving DecidableEq

def Cause.kind : Cause → Kind
  | missingGet | missingFrom | missingScope => .malformedQuery
  | unknownColumn _ | unknownCountColumn _ | unknownAggregateColumn _ | unknownGroupColumn _
  | unknownOrderColumn _ | unknownFilterColumn _ => .unknownField
  | missingGroupColumn | missingOrderColumn | unsupportedPredicate _ | unsupportedText _
  | repeatedClause _ | missingClause _ => .unsupportedClause
  | limitNotANumber | negativeLimit => .invalidLimit

def Cause.message : Cause → String
  | missingGet => "Questions must start with 'Get'."
  | missingFrom => "Include a scope using 'from'."
  | missingScope => "Provide a scope after 'from'."
  | unknownColumn label => "Unknown field '" ++ label ++ "'"
  | unknownCountColumn label => "Unknown count column '" ++ label ++ "'"
  | unknownAggregateColumn label => "Unknown aggregation column '" ++ label ++ "'"
  | unknownGroupColumn label => "Unknown group by column '" ++ label ++ "'"
  | unknownOrderColumn label => "Unknown order by column '" ++ label ++ "'"
  | unknownFilterColumn label => "Unknown field '" ++ label ++ "'"
  | missingGroupColumn => "Group by requires a column."
  | missingOrderColumn => "Order by requires a column."
  | unsupportedPredicate text => "Unsupported clause '" ++ text ++ "'"
  | unsupportedText beginning => "Unsupported clause near '" ++ beginning ++ "'"
  | repeatedClause name => "Only one '" ++ name ++ "' clause is allowed."
  | missingClause name => "Invalid " ++ name
  | limitNotANumber => "Limit must be a number."
  | negativeLimit => "Limit must be zero or a positive number."

end ParseError

structure ParseError where
  cause : ParseError.Cause
  span : Span
  text : String
deriving DecidableEq

namespace ParseError

/-- The error at a span of a window. -/
def locate (window : Window) (cause : Cause) (span : Span) : ParseError :=
  ⟨cause, span, window.textOf span⟩

def kind (error : ParseError) : Kind := error.cause.kind

def message (error : ParseError) : String := error.cause.message

/-- The error with its place, on two lines. -/
def display (error : ParseError) : String :=
  "ParseError: " ++ error.message ++ "\n  at [" ++ toString error.span.start ++ ":" ++
    toString error.span.stop ++ "] -> '" ++ error.text ++ "'"

end ParseError

namespace Warning

inductive Cause where
  | unrecognizedScope (text : String)
  /-- A containment operator on a numeric field. -/
  | containmentOnNumber (phrase label : String)
  | groupWithoutAggregation (label : String)
  | columnBesideAggregation (label : String)
deriving DecidableEq

def Cause.message : Cause → String
  | unrecognizedScope text => "Unrecognized scope '" ++ text ++ "'; using all machines."
  | containmentOnNumber phrase label =>
    "Using '" ++ phrase ++ "' with numeric field '" ++ label ++ "' may return unexpected results."
  | groupWithoutAggregation label =>
    "Group by '" ++ label ++ "' has no effect without an aggregation."
  | columnBesideAggregation label =>
    "Column '" ++ label ++ "' is ignored when aggregations are requested."

end Warning

structure Warning where
  cause : Warning.Cause
  span : Span
deriving DecidableEq

def Warning.message (warning : Warning) : String := warning.cause.message

/-- What a reader found, and the position where it stopped. -/
structure Reading (α : Type) where
  outcome : Except ParseError α
  position : Nat

end FleetQuery
