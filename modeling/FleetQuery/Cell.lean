import FleetQuery.Binary64.Arithmetic
import FleetQuery.Binary64.Text
import FleetQuery.Json.Basic
import FleetQuery.Text.Blank

/-!
# Cells

A cell is one value of one machine: text, a number, or nothing. Filters compare its text or its
number, grouping uses its text, and result tables show numbers rounded to thousandths.
-/
namespace FleetQuery

inductive Cell where
  | null
  | text (value : String)
  | number (value : Binary64)
deriving DecidableEq

namespace Cell

/-- Numbers are positional from `0.0001` up to sixteen digits before the point. -/
def numeralStyle : Binary64.NumeralStyle := ⟨-4, 15, 2, .upward⟩

/-- The text of a number. A whole number keeps one zero after the point. -/
def numberText : Binary64 → String
  | .nan => "nan"
  | .infinite negative => if negative then "-inf" else "inf"
  | .finite negative rank => String.ofList (Binary64.writeFinite numeralStyle negative rank)

/-- The number that a text denotes, blanks around it apart. -/
def readNumber (text : String) : Option Binary64 := Binary64.read (Text.trimChars text.toList)

def isNull : Cell → Bool
  | null => true
  | _ => false

def toText? : Cell → Option String
  | null => none
  | text value => some value
  | number value => some (numberText value)

/-- The number of the cell; text counts if it denotes one. -/
def toNumber? : Cell → Option Binary64
  | null => none
  | text value => readNumber value
  | number value => some value

/-- A number as result tables show it. -/
def roundedJson (value : Binary64) : Json := .ofBinary64 value.roundToThousandths

def toJson : Cell → Json
  | null => .null
  | text value => .string value
  | number value => roundedJson value

end Cell
end FleetQuery
