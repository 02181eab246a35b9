import FleetQuery.Binary64.Shortest

/-!
# Numbers as text

Writing lays out the shortest digits either positionally, with at least one digit after the point,
or with an exponent; a style says where the one form ends and the other begins. Reading takes an
optional sign and then a decimal with optional point and exponent, or the name of a special value in
any case.
-/
namespace FleetQuery.Binary64

/-- How digits are laid out. -/
structure NumeralStyle where
  /-- The least exponent of a leading digit that is written positionally. -/
  lowest : Int
  /-- The greatest exponent of a leading digit that is written positionally. -/
  highest : Int
  /-- The least number of digits of a written exponent. -/
  exponentDigits : Nat
  tie : TieRule
deriving DecidableEq

def digitsOf (n : Nat) : List Char := Nat.toDigits 10 n

def zeros (count : Nat) : List Char := List.replicate count '0'

/-- `digits` with the point after the digit of exponent zero. -/
def positional (digits : List Char) (leading : Int) : List Char :=
  if leading < 0 then '0' :: '.' :: zeros (-leading - 1).toNat ++ digits
  else
    let before := leading.toNat + 1
    if digits.length ≤ before then digits ++ zeros (before - digits.length) ++ ['.', '0']
    else digits.take before ++ '.' :: digits.drop before

/-- `digits` with the point after the first one, then the exponent with its sign. -/
def scientific (exponentDigits : Nat) (digits : List Char) (leading : Int) : List Char :=
  let fraction := match digits.drop 1 with
    | [] => []
    | rest => '.' :: rest
  let exponent := digitsOf leading.natAbs
  digits.take 1 ++ fraction ++ 'e' :: (if leading < 0 then '-' else '+') ::
    zeros (exponentDigits - exponent.length) ++ exponent

/-- The digits of a significand without the zeros at its end. -/
def significantDigits (significand : Nat) : List Char :=
  ((digitsOf significand).reverse.dropWhile (· == '0')).reverse

def writeMagnitude (style : NumeralStyle) (rank : Nat) : List Char :=
  if rank = 0 then ['0', '.', '0']
  else
    let decimal := shortest style.tie rank
    let leading := decimal.exponent + digitCount decimal.significand - 1
    let digits := significantDigits decimal.significand
    if style.lowest ≤ leading ∧ leading ≤ style.highest then positional digits leading
    else scientific style.exponentDigits digits leading

/-- The text of a finite number. -/
def writeFinite (style : NumeralStyle) (negative : Bool) (rank : Nat) : List Char :=
  (if negative then ['-'] else []) ++ writeMagnitude style rank

/-- The value of a run of decimal digits. -/
def digitsValue (digits : List Char) : Nat :=
  digits.foldl (fun value digit => 10 * value + (digit.toNat - '0'.toNat)) 0

/-- An optional sign: whether it is a minus, and what follows. -/
def splitSign : List Char → Bool × List Char
  | '-' :: rest => (true, rest)
  | '+' :: rest => (false, rest)
  | chars => (false, chars)

/-- The exponent that ends a decimal: nothing, or a mark, an optional sign and digits. -/
def readExponent : List Char → Option Int
  | [] => some 0
  | mark :: rest =>
    let (negative, digits) := splitSign rest
    if (mark == 'e' || mark == 'E') && !digits.isEmpty && digits.all Char.isDigit then
      some (if negative then -(digitsValue digits : Int) else digitsValue digits)
    else none

/-- Infinity and not a number by name. -/
def readName (negative : Bool) (chars : List Char) : Option Binary64 :=
  let name := chars.map Char.toLower
  if name = "inf".toList ∨ name = "infinity".toList then some (.infinite negative)
  else if name = "nan".toList then some .nan
  else none

/-- The digits at the front, and what follows them. -/
def spanDigits (chars : List Char) : List Char × List Char :=
  (chars.takeWhile Char.isDigit, chars.dropWhile Char.isDigit)

/-- The digits after a point, if one stands at the front, and what follows them. -/
def spanFraction : List Char → List Char × List Char
  | '.' :: rest => spanDigits rest
  | chars => ([], chars)

def readUnsigned (negative : Bool) (chars : List Char) : Option Binary64 :=
  let (whole, afterWhole) := spanDigits chars
  let (fraction, afterFraction) := spanFraction afterWhole
  if whole.isEmpty && fraction.isEmpty then readName negative chars
  else (readExponent afterFraction).map fun exponent =>
    ofDecimal negative (digitsValue (whole ++ fraction)) (exponent - fraction.length)

/-- The number that a text denotes. -/
def read (chars : List Char) : Option Binary64 :=
  let (negative, rest) := splitSign chars
  readUnsigned negative rest

end FleetQuery.Binary64
