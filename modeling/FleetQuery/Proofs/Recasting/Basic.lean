import FleetQuery.Proofs.Text.Folding
import FleetQuery.Question.Query

/-!
# Recasting of queries

A question can be typed at another place and with other cases of its letters. A recasting does the
same to what was read from it: every text is folded and every span is moved.
-/
namespace FleetQuery

/-! ### Moved spans -/

namespace Span

def moved (shift : Nat) (span : Span) : Span :=
  ⟨span.start + shift, span.stop + shift, Nat.add_le_add_right span.ordered shift⟩

variable {shift : Nat} (span : Span)

@[simp] theorem moved_start : (span.moved shift).start = span.start + shift := rfl

@[simp] theorem moved_stop : (span.moved shift).stop = span.stop + shift := rfl

@[simp] theorem moved_zero : span.moved 0 = span := rfl

@[simp] theorem moved_isEmpty : (span.moved shift).isEmpty = span.isEmpty := by
  rw [Bool.eq_iff_iff]
  simp only [isEmpty, moved_start, moved_stop, beq_iff_eq]
  omega

@[simp] theorem moved_length : (span.moved shift).length = span.length := by
  simp only [length, moved_start, moved_stop]
  omega

theorem between_add (start stop : Nat) :
    between (start + shift) (stop + shift) = (between start stop).moved shift := by
  simp only [between, moved, Nat.add_max_add_right]

/-- Two spans with the same ends. -/
theorem eq_of_ends {left right : Span} (starts : left.start = right.start)
    (stops : left.stop = right.stop) : left = right := by
  cases left
  cases right
  cases starts
  cases stops
  rfl

end Span

/-! ### Recastings -/

structure Recasting where
  folding : Text.Folding
  shift : Nat

namespace Recasting

/-- Moves the spans and keeps the texts. -/
def moving (shift : Nat) : Recasting := ⟨.exact, shift⟩

/-- Keeps the texts up to the case of ASCII letters, and the spans. -/
def ignoringCase : Recasting := ⟨.ignoringCase, 0⟩

/-- The recasting that folds the texts in the same way and leaves the spans. -/
def still (recasting : Recasting) : Recasting := { recasting with shift := 0 }

variable (recasting : Recasting)

def text : String → String := recasting.folding.text

def span : Span → Span := Span.moved recasting.shift

@[simp] theorem span_start (span : Span) :
    (recasting.span span).start = span.start + recasting.shift := rfl

@[simp] theorem span_stop (span : Span) :
    (recasting.span span).stop = span.stop + recasting.shift := rfl

@[simp] theorem span_isEmpty (span : Span) : (recasting.span span).isEmpty = span.isEmpty :=
  Span.moved_isEmpty span

@[simp] theorem span_length (span : Span) : (recasting.span span).length = span.length :=
  Span.moved_length span

theorem span_between (start stop : Nat) : recasting.span (.between start stop) =
    .between (start + recasting.shift) (stop + recasting.shift) :=
  (Span.between_add start stop).symm

theorem eq_of_span {recasting : Recasting} {left right : Span}
    (same : recasting.span left = recasting.span right) : left = right := by
  have starts := congrArg Span.start same
  have stops := congrArg Span.stop same
  rw [span_start, span_start] at starts
  rw [span_stop, span_stop] at stops
  exact Span.eq_of_ends (Nat.add_right_cancel starts) (Nat.add_right_cancel stops)

def column (column : Column) : Column :=
  ⟨recasting.text column.label, recasting.span column.span⟩

def call (call : AggregateCall) : AggregateCall :=
  ⟨call.aggregate, call.target.map recasting.column⟩

def item : Projection.Item → Projection.Item
  | .column column => .column (recasting.column column)
  | .aggregate call => .aggregate (recasting.call call)

def projection (projection : Projection) : Projection :=
  ⟨projection.columns.map recasting.column, projection.aggregations.map recasting.call⟩

def selection : Scope.Selection → Scope.Selection
  | .all => .all
  | .group name => .group (recasting.text name)

def scope (scope : Scope) : Scope :=
  ⟨recasting.selection scope.selection, recasting.span scope.span⟩

def filter (filter : Filter) : Filter :=
  ⟨filter.field, recasting.text filter.label, filter.operator, recasting.text filter.value,
    recasting.span filter.span⟩

def groupBy (groupBy : GroupBy) : GroupBy :=
  ⟨recasting.column groupBy.column, recasting.span groupBy.span⟩

def orderBy (orderBy : OrderBy) : OrderBy :=
  ⟨recasting.column orderBy.column, orderBy.ascending⟩

def warningCause : Warning.Cause → Warning.Cause
  | .unrecognizedScope text => .unrecognizedScope (recasting.text text)
  | .containmentOnNumber phrase label => .containmentOnNumber phrase (recasting.text label)
  | .groupWithoutAggregation label => .groupWithoutAggregation (recasting.text label)
  | .columnBesideAggregation label => .columnBesideAggregation (recasting.text label)

def warning (warning : Warning) : Warning :=
  ⟨recasting.warningCause warning.cause, recasting.span warning.span⟩

def query (query : Query) : Query where
  columns := query.columns.map recasting.column
  aggregations := query.aggregations.map recasting.call
  scope := recasting.scope query.scope
  filters := query.filters.map recasting.filter
  groupBy := query.groupBy.map recasting.groupBy
  orderBy := query.orderBy.map recasting.orderBy
  limit := query.limit
  warnings := query.warnings.map recasting.warning

def cause : ParseError.Cause → ParseError.Cause
  | .unknownColumn label => .unknownColumn (recasting.text label)
  | .unknownCountColumn label => .unknownCountColumn (recasting.text label)
  | .unknownAggregateColumn label => .unknownAggregateColumn (recasting.text label)
  | .unknownGroupColumn label => .unknownGroupColumn (recasting.text label)
  | .unknownOrderColumn label => .unknownOrderColumn (recasting.text label)
  | .unknownFilterColumn label => .unknownFilterColumn (recasting.text label)
  | .unsupportedPredicate text => .unsupportedPredicate (recasting.text text)
  | .unsupportedText beginning => .unsupportedText (recasting.text beginning)
  | other => other

def error (error : ParseError) : ParseError :=
  ⟨recasting.cause error.cause, recasting.span error.span, recasting.text error.text⟩

/-- What was read, where `value` recasts the values. -/
def outcome {α : Type} (value : α → α) : Except ParseError α → Except ParseError α
  | .ok result => .ok (value result)
  | .error error => .error (recasting.error error)

/-! ### Texts and spans that are kept -/

theorem text_moving (shift : Nat) : (moving shift).text = id := Text.Folding.text_exact

theorem span_moving_zero : (moving 0).span = id := rfl

theorem column_moving_zero : (moving 0).column = id := by
  funext column
  simp [Recasting.column, text_moving, span_moving_zero]

theorem call_moving_zero : (moving 0).call = id := by
  funext call
  simp [Recasting.call, column_moving_zero]

theorem scope_moving_zero : (moving 0).scope = id := by
  funext scope
  obtain ⟨selection, span⟩ := scope
  cases selection <;> simp [Recasting.scope, selection, text_moving, span_moving_zero]

theorem filter_moving_zero : (moving 0).filter = id := by
  funext filter
  simp [Recasting.filter, text_moving, span_moving_zero]

theorem groupBy_moving_zero : (moving 0).groupBy = id := by
  funext groupBy
  simp [Recasting.groupBy, column_moving_zero, span_moving_zero]

theorem orderBy_moving_zero : (moving 0).orderBy = id := by
  funext orderBy
  simp [Recasting.orderBy, column_moving_zero]

theorem warning_moving_zero : (moving 0).warning = id := by
  funext warning
  obtain ⟨cause, span⟩ := warning
  cases cause <;> simp [Recasting.warning, warningCause, text_moving, span_moving_zero]

theorem query_moving_zero : (moving 0).query = id := by
  funext query
  simp [Recasting.query, column_moving_zero, call_moving_zero, scope_moving_zero,
    filter_moving_zero, groupBy_moving_zero, orderBy_moving_zero, warning_moving_zero]

theorem cause_moving (shift : Nat) : (moving shift).cause = id := by
  funext cause
  cases cause <;> simp [Recasting.cause, text_moving]

theorem error_moving_zero : (moving 0).error = id := by
  funext error
  simp [Recasting.error, cause_moving, text_moving, span_moving_zero]

/-- Nothing is recast where nothing is folded or moved. -/
theorem outcome_moving_zero (outcome : Except ParseError Query) :
    (moving 0).outcome (moving 0).query outcome = outcome := by
  cases outcome <;> simp [Recasting.outcome, query_moving_zero, error_moving_zero]

end Recasting
end FleetQuery
