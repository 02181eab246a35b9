import FleetQuery.Binary64.Rounding

/-!
# Shortest decimals

The shortest decimal of a magnitude has the fewest digits among all decimals that read back to it,
and among those it is the nearest. On each grid of decimals with a given number of digits only the
two neighbours of the value need to be tried: if any decimal of the grid reads back, one of them
does. Seventeen digits always suffice; the exact expansion stands behind them, so that the search
has an answer without that fact.
-/
namespace FleetQuery.Binary64

/-- The value `significand * 10 ^ exponent`. -/
structure Decimal where
  significand : Nat
  exponent : Int
deriving DecidableEq

/-- The rank nearest to a decimal, also beyond the finite ones. -/
def Decimal.rank (decimal : Decimal) : Nat :=
  if 0 ≤ decimal.exponent then
    nearestRank (decimal.significand * Nat.pow 10 decimal.exponent.toNat) 1
  else nearestRank decimal.significand (Nat.pow 10 (-decimal.exponent).toNat)

/-- Which of two equally near decimals is taken. -/
inductive TieRule where
  | upward
  | even
deriving DecidableEq

/-- The exponent of the leading decimal digit of a positive magnitude. The smallest one is above
`10 ^ -324`, so the power of ten leaves at least one digit before the point. -/
def leadingExponent (rank : Nat) : Int :=
  (digitCount (magnitude rank * Nat.pow 10 324 / unitsInOne) : Int) - 325

/-- The magnitude over `10 ^ exponent`, as numerator and denominator. -/
def scaledBy (rank : Nat) (exponent : Int) : Nat × Nat :=
  if 0 ≤ exponent then (magnitude rank, unitsInOne * Nat.pow 10 exponent.toNat)
  else (magnitude rank * Nat.pow 10 (-exponent).toNat, unitsInOne)

/-- The two neighbours of a magnitude among the multiples of `10 ^ exponent`, the nearer one first. -/
def neighbours (tie : TieRule) (rank : Nat) (exponent : Int) : List Decimal :=
  let (numerator, denominator) := scaledBy rank exponent
  let down := numerator / denominator
  let below : Decimal := ⟨down, exponent⟩
  let above : Decimal := ⟨down + 1, exponent⟩
  let excess := 2 * (numerator % denominator)
  let preferAbove : Bool :=
    denominator < excess || (excess == denominator && (tie == .upward || down % 2 == 1))
  if preferAbove then [above, below] else [below, above]

/-- The nearest decimal with `digits` digits that reads back, if there is one. -/
def shortestOn (tie : TieRule) (rank digits : Nat) : Option Decimal :=
  (neighbours tie rank (leadingExponent rank + 1 - digits)).find? fun decimal =>
    decimal.rank == rank

/-- The exact value: a unit is `5 ^ 1074 / 10 ^ 1074`. -/
def exactDecimal (rank : Nat) : Decimal := ⟨magnitude rank * Nat.pow 5 1074, -1074⟩

/-- The shortest decimal of a positive magnitude. -/
def shortest (tie : TieRule) (rank : Nat) : Decimal :=
  (((List.range' 1 17).findSome? (shortestOn tie rank)).getD (exactDecimal rank))

end FleetQuery.Binary64
