import FleetQuery.Binary64.Basic

/-!
# Rounding

An exact ratio becomes the nearest number, and a ratio half-way between two neighbours becomes the
one of even rank. Past the largest finite magnitude the result is infinite.
-/
namespace FleetQuery.Binary64

/-- The greatest rank whose magnitude is at most `quotient`. -/
def rankBelow (quotient : Nat) : Nat :=
  let shift := quotient.log2 - 52
  shift * Nat.pow 2 52 + quotient / Nat.pow 2 shift

/-- The rank nearest to `numerator / denominator`, also beyond the finite ones. -/
def nearestRank (numerator denominator : Nat) : Nat :=
  let below := rankBelow (numerator * unitsInOne / denominator)
  let doubled := 2 * (numerator * unitsInOne)
  let middle := (magnitude below + magnitude (below + 1)) * denominator
  if doubled < middle then below
  else if middle < doubled then below + 1
  else if below % 2 = 0 then below else below + 1

def ofRank (negative : Bool) (rank : Nat) : Binary64 :=
  if fits : rank < magnitudes then .finite negative ⟨rank, fits⟩ else .infinite negative

/-- The number nearest to `numerator / denominator`. -/
def ofRatio (negative : Bool) (numerator denominator : Nat) : Binary64 :=
  ofRank negative (nearestRank numerator denominator)

def ofNat (n : Nat) : Binary64 := ofRatio false n 1

def ofInt (n : Int) : Binary64 := ofRatio (n < 0) n.natAbs 1

/-- The number of decimal digits of `n`. -/
def digitCount (n : Nat) : Nat := (Nat.toDigits 10 n).length

/-- The number nearest to `significand * 10 ^ exponent`. Powers far outside the range of the format
are settled by the number of digits alone: below `10 ^ -330` everything rounds to zero, and from
`10 ^ 310` on everything is infinite. -/
def ofDecimal (negative : Bool) (significand : Nat) (exponent : Int) : Binary64 :=
  let size := exponent + digitCount significand
  if significand = 0 ∨ size < -330 then zero negative
  else if 310 < size then .infinite negative
  else if 0 ≤ exponent then ofRatio negative (significand * Nat.pow 10 exponent.toNat) 1
  else ofRatio negative significand (Nat.pow 10 (-exponent).toNat)

end FleetQuery.Binary64
