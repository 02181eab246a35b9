import FleetQuery.Question.AggregateCall
import FleetQuery.Question.Keyword

/-!
# Projections

The list of items between `get` and `from`: columns and aggregate calls. Items are separated by
commas or by the word `and` between single blanks, and empty ones are passed over. The list ends at
the leftmost ` from `; a separator may share its closing blank with it.
-/
namespace FleetQuery

structure Projection where
  columns : List Column
  aggregations : List AggregateCall
deriving DecidableEq

namespace Projection

/-- Whether the list ends at `position`. -/
def endsAt (window : Window) (position : Nat) : Bool :=
  Keyword.scopeOpening.matchesAt window position

/-- Where the item after the word `and` at `position` begins: at the closing blank if that opens
` from `. -/
def afterSeparator (window : Window) (position : Nat) : Nat :=
  if endsAt window (position + 4) then position + 4 else position + 5

theorem lt_afterSeparator (window : Window) (position : Nat) :
    position < afterSeparator window position := by
  unfold afterSeparator
  split <;> omega

/-- Cuts the text from `position` on into items, the first of which began at `pivot`, and gives the
position where the list ends. There is no list without an end. -/
def cut (window : Window) (pivot position : Nat) : Option (List Span × Nat) :=
  if window.stop ≤ position then none
  else if endsAt window position then some ([.between pivot position], position)
  else if window.hasAt position ',' then
    (cut window (position + 1) (position + 1)).map fun (items, stop) =>
      (.between pivot position :: items, stop)
  else if Keyword.itemSeparator.matchesAt window position then
    let next := afterSeparator window position
    (cut window next next).map fun (items, stop) => (.between pivot position :: items, stop)
  else cut window pivot (position + 1)
termination_by window.stop - position
decreasing_by
  · omega
  · have := lt_afterSeparator window position
    omega
  · omega

/-- The items that hold more than blanks. -/
def pieces (window : Window) (items : List Span) : List Span :=
  (items.map window.trimSpan).filter fun item => !item.isEmpty

inductive Item where
  | column (column : Column)
  | aggregate (call : AggregateCall)

/-- The aggregate call that an item spells, if it has the form of one. -/
def aggregateCall? (window : Window) (span : Span) : Option AggregateCall :=
  let lowered := Text.lowerChars (window.slice span.start span.stop)
  if lowered.getLast? = some ')' then
    (Aggregate.all.find? fun aggregate =>
      (aggregate.name.toList ++ ['(']).isPrefixOf lowered).map fun aggregate =>
        let opening := span.start + aggregate.name.length
        let inner := window.trimSpan (.between (opening + 1) (span.stop - 1))
        ⟨aggregate, if inner.isEmpty then none else some (.ofSpan window inner)⟩
  else none

def unknownTarget (aggregate : Aggregate) (label : String) : ParseError.Cause :=
  if aggregate = .count then .unknownCountColumn label else .unknownAggregateColumn label

def readItem (catalog : Catalog) (window : Window) (span : Span) : Except ParseError Item :=
  match aggregateCall? window span with
  | some call =>
    match call.target with
    | none => .ok (.aggregate call)
    | some target =>
      (target.known window catalog (unknownTarget call.aggregate target.label)).map fun _ =>
        .aggregate call
  | none =>
    let column := Column.ofSpan window span
    (column.known window catalog (.unknownColumn column.label)).map .column

def ofItems (items : List Item) : Projection where
  columns := items.filterMap fun
    | .column column => some column
    | .aggregate _ => none
  aggregations := items.filterMap fun
    | .aggregate call => some call
    | .column _ => none

/-- Reads the list from `position` to the blank that opens ` from `. -/
def read (catalog : Catalog) (window : Window) (position : Nat) : Reading Projection :=
  match cut window position position with
  | none =>
    ⟨.error (.locate window .missingFrom (.between window.start (window.start + 3))),
      max position window.stop⟩
  | some (items, stop) =>
    ⟨((pieces window items).mapM (readItem catalog window)).map ofItems, stop⟩

end Projection
end FleetQuery
