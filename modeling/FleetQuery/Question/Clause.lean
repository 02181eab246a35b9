import FleetQuery.Question.Keyword
import FleetQuery.Question.ParseError

/-!
# Clauses

After the scope a question goes on with clauses, each opened by its keyword. A clause runs up to the
leftmost place where another keyword follows a blank. The word `with` after the word `starts` belongs
to a filter and opens nothing.
-/
namespace FleetQuery

inductive Clause where
  | groupBy
  | orderBy
  | limit
  | withFilter
  | whereFilter
deriving DecidableEq

namespace Clause

def all : List Clause := [groupBy, orderBy, limit, withFilter, whereFilter]

def name : Clause → String
  | groupBy => "group by"
  | orderBy => "order by"
  | limit => "limit"
  | withFilter => "with"
  | whereFilter => "where"

/-- The keyword where a clause begins, with the blank after it. -/
def keyword (clause : Clause) : Keyword := ⟨clause.name.toList ++ [' '], false, false⟩

/-- The keyword where the text before the clause ends, with the blank before it too. -/
def boundary (clause : Clause) : Keyword := ⟨' ' :: clause.name.toList ++ [' '], false, false⟩

/-- Filters may come any number of times. -/
def isRepeatable : Clause → Bool
  | withFilter | whereFilter => true
  | groupBy | orderBy | limit => false

/-- Whether the word before `position` is `starts`. -/
def followsStarts (window : Window) (position : Nat) : Bool :=
  6 ≤ position && (position == 6 || window.blankAt (position - 7)) &&
    Text.sameIgnoringAsciiCase (window.slice (position - 6) position) "starts".toList

/-- Whether the text before `position` ends there because the clause begins. -/
def isBoundaryAt (window : Window) (position : Nat) (clause : Clause) : Bool :=
  clause.boundary.matchesAt window position &&
    !(clause == withFilter && followsStarts window position)

/-- The clause that begins after `position`. -/
def boundaryAt? (window : Window) (position : Nat) : Option Clause :=
  all.find? (isBoundaryAt window position)

/-- The leftmost position from `start` on where a clause begins. -/
def findBoundary? (window : Window) (start : Nat) : Option (Nat × Clause) :=
  (firstIn start window.stop fun i => (boundaryAt? window i).isSome).bind fun position =>
    (boundaryAt? window position).map fun clause => (position, clause)

/-- Where the text that begins at `start` ends. -/
def segmentEnd (window : Window) (start : Nat) : Nat :=
  match findBoundary? window start with
  | some (position, _) => position
  | none => window.stop

/-- The clause whose keyword stands at `position`. -/
def detect? (window : Window) (position : Nat) : Option Clause :=
  all.find? fun clause => clause.keyword.matchesAt window position

/-- The parts of a clause and the position of the text after it. -/
structure Segment where
  /-- The keyword without its blank. -/
  keyword : Span
  /-- What follows up to the next clause, without blanks at both ends. -/
  body : Span
  next : Nat

/-- The clause at `position`, if its keyword stands there. -/
def segment? (window : Window) (clause : Clause) (position : Nat) : Option Segment :=
  if clause.keyword.matchesAt window position then
    let start := window.jump position clause.keyword.length
    let stop := segmentEnd window start
    some
      { keyword := .between position (position + clause.name.length)
        body := window.trimSpan (.between start stop)
        next := window.skipAhead (window.jumpTo stop) }
  else none

/-- The error for a clause whose keyword does not stand where it is read. -/
def missing (window : Window) (clause : Clause) (position : Nat) : ParseError :=
  .locate window (.missingClause clause.name) (.between position position)

/-- Reads the clause at `position`, leaving its body to `read`. -/
def take {α : Type} (window : Window) (clause : Clause) (position : Nat)
    (read : Segment → Except ParseError α) : Reading α :=
  match segment? window clause position with
  | some segment => ⟨read segment, segment.next⟩
  | none => ⟨.error (missing window clause position), position⟩

/-- The error for text that opens no clause; it shows the first twenty characters. -/
def unsupported (window : Window) (position : Nat) : ParseError :=
  .locate window
    (.unsupportedText (String.ofList ((window.slice position window.stop).take 20)))
    (.between position window.stop)

/-! ### Progress -/

theorem le_segmentEnd (window : Window) (start : Nat) (inside : start ≤ window.stop) :
    start ≤ segmentEnd window start := by
  unfold segmentEnd findBoundary?
  cases found : firstIn start window.stop fun i => (boundaryAt? window i).isSome with
  | none => simpa using inside
  | some position =>
    have bounds := firstIn_bounds found
    cases clause : boundaryAt? window position with
    | none => simpa [clause] using inside
    | some _ => simpa [clause] using bounds.1

theorem segmentEnd_le (window : Window) (start : Nat) : segmentEnd window start ≤ window.stop := by
  unfold segmentEnd findBoundary?
  cases found : firstIn start window.stop fun i => (boundaryAt? window i).isSome with
  | none => simp
  | some position =>
    have bounds := firstIn_bounds found
    cases clause : boundaryAt? window position with
    | none => simp [clause]
    | some _ => simpa [clause] using Nat.le_of_lt bounds.2

/-- A clause takes at least its keyword. -/
theorem segment_next {window : Window} {clause : Clause} {position : Nat} {segment : Segment}
    (found : segment? window clause position = some segment) :
    position + clause.keyword.length ≤ segment.next := by
  unfold segment? at found
  split at found
  case isFalse => cases found
  case isTrue here =>
    have fits := Keyword.le_stop_of_matchesAt here
    cases found
    have jumped : window.jump position clause.keyword.length = position + clause.keyword.length :=
      Nat.min_eq_left fits
    have lower := le_segmentEnd window (position + clause.keyword.length) fits
    have upper := segmentEnd_le window (position + clause.keyword.length)
    have skipped := window.le_skipBlanks
      (window.jumpTo (segmentEnd window (position + clause.keyword.length))) window.stop
    simp only [jumped, Window.skipAhead]
    simp only [Window.jumpTo] at skipped ⊢
    omega

theorem keyword_length_pos (clause : Clause) : 0 < clause.keyword.length := by
  cases clause <;> decide

end Clause
end FleetQuery
