import FleetQuery.Binary64.Text
import FleetQuery.Question.Clause

/-!
# Limits

The number of rows that are kept: the first word of the clause, an optional sign with decimal digits.
A number that does not fit a 64-bit word counts as the greatest one that does, and a minus is for
zero only.
-/
namespace FleetQuery.Limit

def greatest : Nat := Nat.pow 2 64 - 1

/-- The first word of a span that begins with a word. -/
def firstWord (window : Window) (span : Span) : Span :=
  .between span.start ((firstIn span.start span.stop window.blankAt).getD span.stop)

/-- The limit that a word denotes. -/
def ofWord (word : List Char) : Except ParseError.Cause Nat :=
  let (negative, digits) := Binary64.splitSign word
  if digits.isEmpty || !digits.all Char.isDigit then .error .limitNotANumber
  else if negative && digits.any (· != '0') then .error .negativeLimit
  else .ok (min (Binary64.digitsValue digits) greatest)

def ofSegment (window : Window) (segment : Clause.Segment) : Except ParseError Nat :=
  let word := firstWord window segment.body
  if word.isEmpty then .error (.locate window .limitNotANumber segment.keyword)
  else (ofWord (window.slice word.start word.stop)).mapError fun cause =>
    .locate window cause word

def read (window : Window) (position : Nat) : Reading Nat :=
  Clause.take window .limit position (ofSegment window)

end FleetQuery.Limit
