import FleetQuery.Question.Clause
import FleetQuery.Question.Column

/-!
# Scopes

The scope after `from` is every machine or one group. A group may be named through an alias and
between quotes. Any other text counts as every machine, with a warning.
-/
namespace FleetQuery

namespace Scope

inductive Selection where
  | all
  | group (name : String)
deriving DecidableEq

end Scope

structure Scope where
  selection : Scope.Selection
  span : Span
deriving DecidableEq

namespace Scope

/-- The name of the group that is asked about. A group without a name is none. -/
def groupName? (scope : Scope) : Option String :=
  match scope.selection with
  | .all => none
  | .group name => if name.isEmpty then none else some name

def kindName (scope : Scope) : String :=
  match scope.selection with
  | .all => "all"
  | .group _ => "group"

/-- The name of the group, or the kind of the scope if there is none. -/
def label (scope : Scope) : String := scope.groupName?.getD scope.kindName

/-- The name between quotes. A quote on its own holds nothing. -/
def unquote (name : List Char) : List Char :=
  if 2 ≤ name.length ∧ name.head? = some '"' ∧ name.getLast? = some '"' then
    (name.drop 1).dropLast
  else if name = ['"'] then []
  else name

/-- The scope that a span spells, and what there is to say about it. -/
def ofSpan (catalog : Catalog) (window : Window) (span : Span) : Scope × List Warning :=
  let opening := Keyword.groupScope
  if opening.matchesAt window span.start && span.start + opening.length ≤ span.stop then
    let name := window.trimSpan (.between (span.start + opening.length) span.stop)
    let written := String.ofList (unquote (window.slice name.start name.stop))
    (⟨.group (catalog.resolveGroup written), span⟩, [])
  else
    let text := window.slice span.start span.stop
    (⟨.all, span⟩,
      if Text.sameIgnoringAsciiCase text "all".toList then []
      else [⟨.unrecognizedScope (String.ofList text), span⟩])

/-- Reads the scope after the ` from ` at `position`, up to the first clause. -/
def read (catalog : Catalog) (window : Window) (position : Nat) :
    Reading (Scope × List Warning) :=
  let opening := Keyword.scopeOpening
  let start := window.skipAhead (window.jump position opening.length)
  if window.stop ≤ start then
    ⟨.error (.locate window .missingScope
        (.between (position + 1) (position + opening.length - 1))), start⟩
  else
    let stop := Clause.segmentEnd window start
    ⟨.ok (ofSpan catalog window (window.trimSpan (.between start stop))),
      window.skipAhead (window.jumpTo stop)⟩

end Scope
end FleetQuery
