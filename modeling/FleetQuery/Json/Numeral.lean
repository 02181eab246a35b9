import FleetQuery.Json.Basic
import FleetQuery.Binary64.Text

/-!
# JSON numerals

A numeral is kept as its digits until its value is wanted. Integers of the 64-bit ranges are exact.
Any other value is a floating-point number made in two steps: the digits that fit a 64-bit word,
rounded, times or over the power of ten that the remaining digits and the exponent leave. Two
roundings may differ from the nearest number in the last place.
-/
namespace FleetQuery.Json

structure Exponent where
  negative : Bool
  digits : List Char
deriving DecidableEq

/-- The parts of a numeral. Without a point the fraction is empty. -/
structure Numeral where
  negative : Bool
  whole : List Char
  fraction : List Char
  exponent : Option Exponent
deriving DecidableEq

namespace Numeral

/-! ### Grammar -/

/-- A sign other than a plus. -/
def splitMinus : List Char → Bool × List Char
  | '-' :: rest => (true, rest)
  | chars => (false, chars)

/-- Digits without a leading zero, zero itself apart. -/
def isWhole (digits : List Char) : Bool :=
  !digits.isEmpty && (digits.length == 1 || digits.head? != some '0')

/-- A point with its digits, if one stands at the front. -/
def readFraction : List Char → Option (List Char × List Char)
  | '.' :: rest =>
    let (digits, after) := Binary64.spanDigits rest
    if digits.isEmpty then none else some (digits, after)
  | chars => some ([], chars)

def readExponent : List Char → Option (Option Exponent)
  | [] => some none
  | mark :: rest =>
    let (negative, digits) := Binary64.splitSign rest
    if (mark == 'e' || mark == 'E') && !digits.isEmpty && digits.all Char.isDigit then
      some (some ⟨negative, digits⟩)
    else none

def read (chars : List Char) : Option Numeral := do
  let (negative, unsigned) := splitMinus chars
  let (whole, afterWhole) := Binary64.spanDigits unsigned
  guard (isWhole whole)
  let (fraction, afterFraction) ← readFraction afterWhole
  let exponent ← readExponent afterFraction
  return ⟨negative, whole, fraction, exponent⟩

/-! ### Value -/

/-- The greatest 64-bit word. -/
def greatestWord : Nat := Nat.pow 2 64 - 1

/-- Appends digits to `significand` as long as it fits a word, and returns the digits left over. -/
def accumulate (significand : Nat) : List Char → Nat × List Char
  | [] => (significand, [])
  | digit :: rest =>
    let extended := 10 * significand + Binary64.digitsValue [digit]
    if extended ≤ greatestWord then accumulate extended rest else (significand, digit :: rest)

/-- Divides by `10 ^ 308` until the exponent is within the range of exact tables or nothing is
left. -/
def scaleDown (value : Binary64) (exponent : Nat) : Binary64 :=
  if exponent ≤ 308 then value.div (.ofDecimal false 1 exponent)
  else if value.isZero then value
  else scaleDown (value.div (.ofDecimal false 1 308)) (exponent - 308)
termination_by exponent

/-- `significand * 10 ^ exponent`, unless it is out of range. -/
def scale (significand : Nat) (exponent : Int) : Option Binary64 :=
  let value := Binary64.ofNat significand
  if exponent < 0 then some (scaleDown value (-exponent).toNat)
  else if exponent ≤ 308 then
    let scaled := value.mul (.ofDecimal false 1 exponent)
    if scaled.isFinite then some scaled else none
  else if value.isZero then some value
  else none

/-- Exponents are held in a 32-bit word. -/
def clampExponent (exponent : Int) : Int := max (-2147483648) (min exponent 2147483647)

/-- The magnitude of a numeral that is not an exact integer. -/
def float? (significand : Nat) (scaling : Int) : Option Exponent → Option Binary64
  | none => scale significand scaling
  | some exponent =>
    let size := Binary64.digitsValue exponent.digits
    if Nat.pow 2 31 ≤ size then
      if significand ≠ 0 ∧ !exponent.negative then none else some (.zero false)
    else if exponent.negative then scale significand (clampExponent (scaling - size))
    else scale significand (clampExponent (scaling + size))

/-- The exact integer, if the numeral is one of the 64-bit ranges. A negative zero is none. -/
def integer? (numeral : Numeral) : Option Int :=
  let value := Binary64.digitsValue numeral.whole
  if numeral.fraction.isEmpty && numeral.exponent.isNone then
    if numeral.negative then
      if 0 < value ∧ value ≤ Nat.pow 2 63 then some (-(value : Int)) else none
    else if value ≤ greatestWord then some value else none
  else none

def value? (numeral : Numeral) : Option Number :=
  match numeral.integer? with
  | some value => some (.integer value)
  | none =>
    let (whole, dropped) := accumulate 0 numeral.whole
    let (significand, ignored) := accumulate whole numeral.fraction
    let taken := numeral.fraction.length - ignored.length
    (float? significand ((dropped.length : Int) - taken) numeral.exponent).map fun magnitude =>
      .float (if numeral.negative then magnitude.neg else magnitude)

end Numeral
end FleetQuery.Json
