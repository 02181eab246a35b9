import FleetQuery.Binary64.Shortest
import FleetQuery.Proofs.Binary64.Ranks
import Mathlib.Algebra.Order.Field.Power
import Mathlib.Tactic.FieldSimp
import Mathlib.Tactic.Linarith

/-!
# Decimals

A decimal is an exact rational number. Its nearest rank grows with its value, so decimals of one
value are read as one number, and the shortest decimal of a magnitude reads back to it. Main
statements: `rank_congr`, `ofDecimal_eq_ofRank` and `rank_shortest`.
-/
namespace FleetQuery.Binary64

namespace Decimal

/-- The value of a decimal as an exact rational number. -/
def value (decimal : Decimal) : ℚ := decimal.significand * (10 : ℚ) ^ decimal.exponent

/-- The rank of a decimal is that of a fraction with its value. -/
theorem exists_fraction (decimal : Decimal) : ∃ numerator denominator : Nat, 0 < denominator ∧
    decimal.rank = nearestRank numerator denominator ∧
      decimal.value = numerator / denominator := by
  obtain ⟨significand, exponent⟩ := decimal
  unfold rank value
  dsimp only
  split
  next whole =>
    obtain ⟨ahead, rfl⟩ := Int.eq_ofNat_of_zero_le whole
    exact ⟨_, 1, Nat.one_pos, rfl, by simp⟩
  next fractional =>
    obtain ⟨behind, rfl⟩ := Int.eq_negSucc_of_lt_zero (Int.lt_of_not_ge fractional)
    refine ⟨significand, _, Nat.pow_pos (by decide), rfl, ?_⟩
    simp [div_eq_mul_inv]

/-- The rank of a decimal does not fall when its value grows. -/
theorem rank_mono {left right : Decimal} (less : left.value ≤ right.value) :
    left.rank ≤ right.rank := by
  obtain ⟨numerator, denominator, positive, rank, value⟩ := left.exists_fraction
  obtain ⟨above, below, other, rank', value'⟩ := right.exists_fraction
  rw [value, value', div_le_div_iff₀ (by exact_mod_cast positive) (by exact_mod_cast other)] at less
  rw [rank, rank']
  exact nearestRank_mono positive other (by exact_mod_cast less)

theorem rank_congr {left right : Decimal} (same : left.value = right.value) :
    left.rank = right.rank :=
  Nat.le_antisymm (rank_mono same.le) (rank_mono same.ge)

/-! ### The number of digits -/

/-- The exponent of the leading digit. -/
def leading (decimal : Decimal) : Int :=
  decimal.exponent + digitCount decimal.significand - 1

theorem digitCount_bounds {n : Nat} (nonzero : n ≠ 0) :
    10 ^ (digitCount n - 1) ≤ n ∧ n < 10 ^ digitCount n := by
  have positive : 0 < digitCount n := Nat.length_toDigits_pos
  refine ⟨?_, (Nat.length_toDigits_le_iff (by decide) positive).mp (Nat.le_refl _)⟩
  rcases Nat.eq_zero_or_pos (digitCount n - 1) with single | more
  · rw [single]
    omega
  · -- a number below the power has fewer digits
    by_contra less
    have shorter := (Nat.length_toDigits_le_iff (by decide) more).mpr (Nat.lt_of_not_le less)
    unfold digitCount at shorter positive
    omega

/-- A decimal lies between the powers of ten at its leading digit. -/
theorem value_bounds {decimal : Decimal} (nonzero : decimal.significand ≠ 0) :
    (10 : ℚ) ^ decimal.leading ≤ decimal.value ∧ decimal.value < 10 ^ (decimal.leading + 1) := by
  obtain ⟨low, high⟩ := digitCount_bounds nonzero
  have positive : 0 < digitCount decimal.significand := Nat.length_toDigits_pos
  have unit : (0 : ℚ) < 10 ^ decimal.exponent := zpow_pos (by norm_num) _
  have first : decimal.leading =
      ((digitCount decimal.significand - 1 : Nat) : Int) + decimal.exponent := by
    unfold leading
    omega
  have behind : decimal.leading + 1 =
      (digitCount decimal.significand : Int) + decimal.exponent := by
    unfold leading
    omega
  constructor
  · rw [first, zpow_add₀ (by norm_num), zpow_natCast, value]
    exact mul_le_mul_of_nonneg_right (by exact_mod_cast low) unit.le
  · rw [behind, zpow_add₀ (by norm_num), zpow_natCast, value]
    exact mul_lt_mul_of_pos_right (by exact_mod_cast high) unit

/-- Far outside the range of the format every decimal rounds to zero or to infinity. -/
theorem rank_far_outside :
    (⟨1, -330⟩ : Decimal).rank = 0 ∧ magnitudes ≤ (⟨1, 310⟩ : Decimal).rank := by
  decide +kernel

theorem value_power (exponent : Int) : (⟨1, exponent⟩ : Decimal).value = 10 ^ exponent := by
  simp [value]

theorem rank_zero (exponent : Int) : (⟨0, exponent⟩ : Decimal).rank = 0 := by
  have least : (⟨0, exponent⟩ : Decimal).value ≤ (⟨1, -330⟩ : Decimal).value := by
    rw [value_power]
    simp only [value, Nat.cast_zero, zero_mul]
    positivity
  have := rank_mono least
  rw [rank_far_outside.1] at this
  exact Nat.le_zero.mp this

end Decimal

/-- A decimal is read as the number of its rank, also where its digits are not looked at. -/
theorem ofDecimal_eq_ofRank (negative : Bool) (decimal : Decimal) :
    ofDecimal negative decimal.significand decimal.exponent = ofRank negative decimal.rank := by
  have none : ofRank negative 0 = zero negative := by
    rw [ofRank, dif_pos (by decide)]
    rfl
  -- no rank is asked for where the leading digit is far from the point: there it is zero, or past
  -- the last one
  unfold ofDecimal
  dsimp only
  split
  next small =>
    have rank : decimal.rank = 0 := by
      by_cases nonzero : decimal.significand = 0
      · obtain ⟨significand, exponent⟩ := decimal
        subst nonzero
        exact Decimal.rank_zero exponent
      · have bound : decimal.leading + 1 ≤ -330 := by
          unfold Decimal.leading
          omega
        have less : decimal.value ≤ (⟨1, -330⟩ : Decimal).value := by
          rw [Decimal.value_power]
          exact (Decimal.value_bounds nonzero).2.le.trans
            (zpow_le_zpow_right₀ (by norm_num) bound)
        have := Decimal.rank_mono less
        rw [Decimal.rank_far_outside.1] at this
        exact Nat.le_zero.mp this
    rw [rank, none]
  next large =>
    split
    next huge =>
      have bound : 310 ≤ decimal.leading := by
        unfold Decimal.leading
        omega
      have more : (⟨1, 310⟩ : Decimal).value ≤ decimal.value := by
        rw [Decimal.value_power]
        exact (zpow_le_zpow_right₀ (by norm_num) bound).trans
          (Decimal.value_bounds (fun none => large (.inl none))).1
      have outside := Decimal.rank_far_outside.2.trans (Decimal.rank_mono more)
      rw [ofRank, dif_neg (Nat.not_lt.mpr outside)]
    next =>
      unfold Decimal.rank
      split <;> rfl

/-! ### Shortest decimals -/

/-- A magnitude that is written out in full is read exactly. -/
theorem rank_exactDecimal (rank : Nat) : (exactDecimal rank).rank = rank := by
  have behind : ¬ (0 : Int) ≤ -1074 := by decide
  have places : (-(-1074) : Int).toNat = 1074 := rfl
  rw [exactDecimal, Decimal.rank]
  simp only [if_neg behind, places]
  -- the number of places does not matter, and the powers are too long to be computed
  refine nearestRank_of_magnitude ?_ ?_
  · generalize 1074 = places
    exact Nat.pow_pos (by decide)
  · delta unitsInOne
    generalize 1074 = places
    simp only [Nat.pow_eq]
    rw [Nat.mul_assoc, ← Nat.mul_pow]

theorem rank_of_shortestOn {tie : TieRule} {rank digits : Nat} {decimal : Decimal}
    (found : shortestOn tie rank digits = some decimal) : decimal.rank = rank := by
  rw [shortestOn] at found
  have reads := List.find?_some found
  exact beq_iff_eq.mp reads

/-- The shortest decimal of a magnitude reads back to it. -/
theorem rank_shortest (tie : TieRule) (rank : Nat) : (shortest tie rank).rank = rank := by
  unfold shortest
  cases found : (List.range' 1 17).findSome? (shortestOn tie rank) with
  | none => rw [Option.getD_none, rank_exactDecimal]
  | some decimal =>
    obtain ⟨digits, _, chosen⟩ := List.exists_of_findSome?_eq_some found
    rw [Option.getD_some, rank_of_shortestOn chosen]

end FleetQuery.Binary64
