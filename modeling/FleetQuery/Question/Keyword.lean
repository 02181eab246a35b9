import FleetQuery.Question.Window
import FleetQuery.Text.LowerCase

/-!
# Keywords

A keyword is a fixed phrase that is compared one character at a time without regard to case. A
character fits a letter only if its lower form is that letter alone. Blanks inside a phrase are
literal, so a phrase that begins and ends with one stands between words.
-/
namespace FleetQuery

structure Keyword where
  /-- The phrase in lower case. -/
  letters : List Char
  /-- Whether a blank has to follow. -/
  blankAfter : Bool
  /-- Whether the end of the window may stand for that blank. -/
  endAfter : Bool
deriving DecidableEq

namespace Keyword

/-- The phrase of a text, without a condition on what follows. -/
def ofText (text : String) : Keyword := ⟨Text.lowerChars text.toList, false, false⟩

def length (keyword : Keyword) : Nat := keyword.letters.length

/-- Whether the characters from `position` on fit the letters. -/
def spells (chars : Array Char) (position : Nat) : List Char → Bool
  | [] => true
  | letter :: rest =>
    (match chars[position]? with
      | some c => Text.lowerChar c == [letter]
      | none => false) && spells chars (position + 1) rest

/-- Whether the phrase, if it stands at `position`, reaches the end of the window. -/
def reachesEnd (keyword : Keyword) (window : Window) (position : Nat) : Bool :=
  window.stop ≤ position + keyword.length

/-- Whether the keyword stands at `position`. -/
def matchesAt (keyword : Keyword) (window : Window) (position : Nat) : Bool :=
  position + keyword.length ≤ window.stop && spells window.chars position keyword.letters &&
    (!keyword.blankAfter ||
      if keyword.reachesEnd window position then keyword.endAfter
      else window.blankAt (position + keyword.length))

theorem le_stop_of_matchesAt {keyword : Keyword} {window : Window} {position : Nat}
    (found : keyword.matchesAt window position = true) :
    position + keyword.length ≤ window.stop := by
  simp only [matchesAt, Bool.and_eq_true, decide_eq_true_eq] at found
  exact found.1.1

/-! ### The phrases of the language -/

def plain (letters : String) : Keyword := ⟨letters.toList, false, false⟩

def get : Keyword := plain "get "

def scopeOpening : Keyword := plain " from "

def groupScope : Keyword := plain "group "

/-- The word between two items of a list. -/
def itemSeparator : Keyword := plain " and "

/-- The word between two predicates, blanks not included. -/
def predicateSeparator : Keyword := ⟨"and".toList, true, false⟩

def ascending : Keyword := ⟨"asc".toList, true, true⟩

def descending : Keyword := ⟨"desc".toList, true, true⟩

end Keyword
end FleetQuery
