import FleetQuery.Question.Clause
import FleetQuery.Question.Column

/-!
# Filters

A filter clause holds predicates joined by `and`. A predicate is a label, an operator phrase and a
value between double quotes that closes it. The label is made of ASCII letters, digits and blanks,
and the shortest one that leaves an operator and a value is taken.
-/
namespace FleetQuery

inductive FilterOperator where
  | contains
  | doesNotContain
  | equals
  | startsWith
  | greaterThan
  | lessThan
deriving DecidableEq

namespace FilterOperator

/-- The operators in the order in which they are tried. -/
def bySpecificity : List FilterOperator :=
  [doesNotContain, contains, startsWith, equals, greaterThan, lessThan]

def phrase : FilterOperator → String
  | contains => "contains"
  | doesNotContain => "does not contain"
  | equals => "equals"
  | startsWith => "starts with"
  | greaterThan => "is greater than"
  | lessThan => "is less than"

def keyword (operator : FilterOperator) : Keyword := .plain operator.phrase

def ofPhrase? (phrase : String) : Option FilterOperator :=
  bySpecificity.find? fun operator => operator.phrase == phrase

def isContainment : FilterOperator → Bool
  | contains | doesNotContain => true
  | _ => false

def isNumeric : FilterOperator → Bool
  | greaterThan | lessThan => true
  | _ => false

end FilterOperator

structure Filter where
  field : Field
  label : String
  operator : FilterOperator
  value : String
  span : Span
deriving DecidableEq

namespace Filter

/-! ### Predicates of a clause -/

/-- Cuts the text from `position` to `stop` at every `and` between blanks. The first piece began at
`pivot`. -/
def split (window : Window) (stop pivot position : Nat) : List Span :=
  if position < stop then
    if window.blankAt position then
      let word := window.skipBlanks (position + 1) stop
      let after := word + Keyword.predicateSeparator.length
      if after < stop ∧ Keyword.predicateSeparator.matchesAt window word then
        let next := window.skipBlanks after stop
        .between pivot position :: split window stop next next
      else split window stop pivot word
    else split window stop pivot (position + 1)
  else [.between pivot stop]
termination_by stop - position
decreasing_by
  · have first := window.le_skipBlanks (position + 1) stop
    have second := window.le_skipBlanks after stop
    simp only [after, word] at *
    omega
  · have first := window.le_skipBlanks (position + 1) stop
    simp only [word] at *
    omega
  · omega

/-- The body without the dots that end it. -/
def withoutDots (window : Window) (body : Span) : Span :=
  let last := lastIn body.start body.stop fun i => !window.hasAt i '.'
  .between body.start ((last.map (· + 1)).getD body.start)

def predicates (window : Window) (body : Span) : List Span :=
  let trimmed := withoutDots window body
  ((split window trimmed.stop trimmed.start trimmed.start).map window.trimSpan).filter
    fun piece => !piece.isEmpty

/-! ### Parts of a predicate -/

structure Predicate where
  label : Span
  operator : FilterOperator
  value : Span
deriving DecidableEq

def isLabelChar (c : Char) : Bool := c.isAlphanum || Text.isBlank c

/-- Where a label that begins at the start of `span` may end. -/
def labelEnds (window : Window) (span : Span) : List Nat :=
  (List.range' (span.start + 1) (span.length - 1)).takeWhile fun stop =>
    match window.chars[stop - 1]? with
    | some c => isLabelChar c
    | none => false

/-- The text between a quote at `opening` and one right before `stop`, if there is any and no quote
in it. -/
def quotedValue? (window : Window) (opening stop : Nat) : Option Span :=
  if opening + 3 ≤ stop ∧ window.hasAt opening '"' ∧ window.hasAt (stop - 1) '"' ∧
      '"' ∉ window.slice (opening + 1) (stop - 1) then
    some (.between (opening + 1) (stop - 1))
  else none

/-- The predicate whose label ends at `labelEnd` and whose operator is `operator`. -/
def predicateAt? (window : Window) (span : Span) (labelEnd : Nat) (operator : FilterOperator) :
    Option Predicate :=
  let start := window.skipBlanks labelEnd span.stop
  let stop := start + operator.keyword.length
  if window.blankAt labelEnd ∧ operator.keyword.matchesAt window start ∧ stop < span.stop ∧
      window.blankAt stop then
    (quotedValue? window (window.skipBlanks stop span.stop) span.stop).map fun value =>
      ⟨window.trimSpan (.between span.start labelEnd), operator, value⟩
  else none

/-- The predicate that a span spells: the shortest label comes first. -/
def predicate? (window : Window) (span : Span) : Option Predicate :=
  (labelEnds window span).findSome? fun labelEnd =>
    FilterOperator.bySpecificity.findSome? (predicateAt? window span labelEnd)

/-! ### Reading -/

def ofPredicate (catalog : Catalog) (window : Window) (span : Span) (predicate : Predicate) :
    Except ParseError Filter :=
  let label := window.textOf predicate.label
  match catalog.field? label with
  | some field => .ok ⟨field, label, predicate.operator, window.textOf predicate.value, span⟩
  | none => .error (.locate window (.unknownFilterColumn label) predicate.label)

def ofSpan (catalog : Catalog) (window : Window) (span : Span) : Except ParseError Filter :=
  match predicate? window span with
  | some predicate => ofPredicate catalog window span predicate
  | none => .error (.locate window (.unsupportedPredicate (window.textOf span)) span)

def ofSegment (catalog : Catalog) (window : Window) (segment : Clause.Segment) :
    Except ParseError (List Filter) :=
  (predicates window segment.body).mapM (ofSpan catalog window)

/-- The filter clause that is tried at `position`. -/
def clauseAt (window : Window) (position : Nat) : Clause :=
  if Clause.withFilter.keyword.matchesAt window position then .withFilter else .whereFilter

/-- Reads a filter clause of either keyword. -/
def read (catalog : Catalog) (window : Window) (position : Nat) : Reading (List Filter) :=
  Clause.take window (clauseAt window position) position (ofSegment catalog window)

/-- A containment operator compares text, which is rarely meant on a number. -/
def warning? (filter : Filter) : Option Warning :=
  if filter.operator.isContainment && filter.field.isNumeric then
    some ⟨.containmentOnNumber filter.operator.phrase filter.label, filter.span⟩
  else none

end Filter
end FleetQuery
