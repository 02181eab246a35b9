import FleetQuery.Question.Span
import FleetQuery.Text.Blank

/-!
# Windows on a question

A window is a question with the range `[start, stop)` that is read. Blanks around the question are
outside the range, but every position counts from the first character of the whole text, so spans
can be shown against what was typed.
-/
namespace FleetQuery

/-- The first of `count` positions from `start` on that has a property. -/
def searchUp (property : Nat → Bool) (start : Nat) : Nat → Option Nat
  | 0 => none
  | count + 1 => if property start then some start else searchUp property (start + 1) count

/-- The last of `count` positions from `start` on that has a property. -/
def searchDown (property : Nat → Bool) (start : Nat) : Nat → Option Nat
  | 0 => none
  | count + 1 =>
    if property (start + count) then some (start + count) else searchDown property start count

/-- The first position in `[start, stop)` that has a property. -/
def firstIn (start stop : Nat) (property : Nat → Bool) : Option Nat :=
  searchUp property start (stop - start)

/-- The last position in `[start, stop)` that has a property. -/
def lastIn (start stop : Nat) (property : Nat → Bool) : Option Nat :=
  searchDown property start (stop - start)

theorem searchUp_bounds {property : Nat → Bool} {start count found : Nat}
    (result : searchUp property start count = some found) :
    start ≤ found ∧ found < start + count := by
  induction count generalizing start with
  | zero => simp [searchUp] at result
  | succ count ih =>
    unfold searchUp at result
    split at result
    · cases result
      omega
    · have := ih result
      omega

theorem firstIn_bounds {start stop found : Nat} {property : Nat → Bool}
    (result : firstIn start stop property = some found) : start ≤ found ∧ found < stop := by
  have := searchUp_bounds result
  omega

structure Window where
  chars : Array Char
  start : Nat
  stop : Nat
  stop_le : stop ≤ chars.size

namespace Window

/-- The window on the characters without the blanks around them. It is empty at the end of the text
if there is nothing but blanks. -/
def ofChars (chars : List Char) : Window :=
  let start := (chars.takeWhile Text.isBlank).length
  let after := (chars.reverse.takeWhile Text.isBlank).length
  { chars := chars.toArray
    start := start
    stop := max start (chars.length - after)
    stop_le := by
      have := (List.takeWhile_sublist (l := chars) Text.isBlank).length_le
      simp only [List.size_toArray]
      omega }

def ofText (question : String) : Window := ofChars question.toList

/-- The window with another end, which is at most the end of the text. -/
def withStop (window : Window) (stop : Nat) : Window :=
  { window with stop := min stop window.chars.size, stop_le := Nat.min_le_right .. }

/-! ### Reading characters -/

/-- The character at a position of the window. -/
def char? (window : Window) (position : Nat) : Option Char :=
  if position < window.stop then window.chars[position]? else none

/-- Whether the text has a blank at the position. -/
def blankAt (window : Window) (position : Nat) : Bool :=
  match window.chars[position]? with
  | some c => Text.isBlank c
  | none => false

/-- Whether the text has the character `c` at the position. -/
def hasAt (window : Window) (position : Nat) (c : Char) : Bool :=
  window.chars[position]? == some c

def atEnd (window : Window) (position : Nat) : Bool := window.stop ≤ position

def slice (window : Window) (start stop : Nat) : List Char :=
  (window.chars.extract start stop).toList

def textOf (window : Window) (span : Span) : String :=
  String.ofList (window.slice span.start span.stop)

/-! ### Moving -/

def advance (window : Window) (position : Nat) : Nat :=
  if position < window.stop then position + 1 else position

/-- The position `ahead` characters on, held back at the end. -/
def jump (window : Window) (position ahead : Nat) : Nat := min (position + ahead) window.stop

def jumpTo (window : Window) (position : Nat) : Nat := min position window.stop

/-- The first position in `[position, stop)` without a blank, or the end. -/
def skipBlanks (window : Window) (position stop : Nat) : Nat :=
  (firstIn position stop fun i => !window.blankAt i).getD (max position stop)

/-- The next position of the window without a blank, or its end. -/
def skipAhead (window : Window) (position : Nat) : Nat :=
  window.skipBlanks position window.stop

/-- The span without the blanks at both ends. -/
def trimSpan (window : Window) (span : Span) : Span :=
  let stop := min span.stop window.chars.size
  let start := window.skipBlanks span.start stop
  let last := lastIn start stop fun i => !window.blankAt i
  .between start ((last.map (· + 1)).getD start)

theorem le_skipBlanks (window : Window) (position stop : Nat) :
    position ≤ window.skipBlanks position stop := by
  unfold skipBlanks
  cases found : firstIn position stop fun i => !window.blankAt i with
  | none => exact Nat.le_max_left ..
  | some next => exact (firstIn_bounds found).1

end Window
end FleetQuery
