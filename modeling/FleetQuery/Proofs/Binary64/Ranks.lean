import FleetQuery.Binary64.Rounding
import Mathlib.Data.Nat.Log
import Mathlib.Order.Monotone.Basic
import Mathlib.Tactic.Ring

/-!
# Ranks and magnitudes

Magnitudes grow with their ranks, so the nearest rank of a ratio can be told by the middles that the
ratio has passed. Main statements: `lt_nearestRank_iff`, `nearestRank_mono` and
`nearestRank_of_magnitude`.
-/
namespace FleetQuery.Binary64

/-! ### Magnitudes -/

/-- The number of ranks in a block. -/
theorem blockSize : Nat.pow 2 52 = 4503599627370496 := rfl

/-- The ranks before the first block are their own magnitude. -/
theorem magnitude_of_lt {rank : Nat} (small : rank < Nat.pow 2 52) : magnitude rank = rank := by
  rw [magnitude, if_pos small]

/-- In a block neighbours are `2 ^ block` apart. The first rank behind the block fits too. -/
theorem magnitude_in_block (block : Nat) {place : Nat} (low : Nat.pow 2 52 ≤ place)
    (high : place ≤ 2 * Nat.pow 2 52) :
    magnitude (block * Nat.pow 2 52 + place) = place * 2 ^ block := by
  rw [magnitude, if_neg (by omega)]
  rw [blockSize] at low high ⊢
  rcases Nat.lt_or_eq_of_le high with inside | behind
  · have quotient : (block * 4503599627370496 + place) / 4503599627370496 = block + 1 := by omega
    have rest : (block * 4503599627370496 + place) % 4503599627370496 =
        place - 4503599627370496 := by omega
    rw [quotient, rest, Nat.add_sub_cancel, Nat.add_sub_cancel' low, Nat.pow_eq]
  · -- the first rank behind the block continues its steps, though the next ones are twice as long
    have quotient : (block * 4503599627370496 + place) / 4503599627370496 = block + 2 := by omega
    have rest : (block * 4503599627370496 + place) % 4503599627370496 = 0 := by omega
    rw [quotient, rest, behind, Nat.pow_eq, Nat.add_sub_assoc (by decide), Nat.pow_succ]
    omega

/-- Each rank stands before the first block or in one. -/
theorem exists_block (rank : Nat) : rank < Nat.pow 2 52 ∨
    ∃ block place, Nat.pow 2 52 ≤ place ∧ place < 2 * Nat.pow 2 52 ∧
      rank = block * Nat.pow 2 52 + place := by
  rw [blockSize]
  rcases Nat.lt_or_ge rank 4503599627370496 with small | large
  · exact .inl small
  · refine .inr ⟨rank / 4503599627370496 - 1, rank % 4503599627370496 + 4503599627370496, ?_⟩
    omega

theorem magnitude_lt_succ (rank : Nat) : magnitude rank < magnitude (rank + 1) := by
  rcases exists_block rank with small | ⟨block, place, low, high, rfl⟩
  · rw [magnitude_of_lt small]
    rcases Nat.lt_or_eq_of_le (Nat.succ_le_of_lt small) with next | next
    · rw [magnitude_of_lt next]
      exact Nat.lt_succ_self rank
    · -- the next rank is the first one of the first block
      have first := magnitude_in_block 0 (Nat.le_refl _) (Nat.le_mul_of_pos_left _ (by decide))
      rw [Nat.zero_mul, Nat.zero_add] at first
      rw [show rank + 1 = Nat.pow 2 52 from next, first]
      omega
  · rw [Nat.add_assoc, magnitude_in_block block low (Nat.le_of_lt high),
      magnitude_in_block block (Nat.le_succ_of_le low) high]
    exact Nat.mul_lt_mul_of_pos_right (Nat.lt_succ_self place) (Nat.two_pow_pos block)

/-- Magnitudes compare as their ranks do. -/
theorem magnitude_strictMono : StrictMono magnitude := strictMono_nat_of_lt_succ magnitude_lt_succ

/-! ### The rank below a quotient -/

/-- The rank that is found is the greatest one whose magnitude is at most the quotient. -/
theorem rankBelow_bounds (quotient : Nat) :
    magnitude (rankBelow quotient) ≤ quotient ∧ quotient < magnitude (rankBelow quotient + 1) := by
  rcases Nat.lt_or_ge quotient (Nat.pow 2 52) with small | large
  · have short : quotient.log2 ≤ 52 := by
      rw [Nat.log2_eq_log_two]
      exact Nat.le_of_lt_succ (Nat.log_lt_of_lt_pow' (by decide) (Nat.lt_of_lt_of_le small (by decide)))
    have same : rankBelow quotient = quotient := by
      simp [rankBelow, Nat.sub_eq_zero_of_le short]
    have next := magnitude_lt_succ quotient
    rw [magnitude_of_lt small] at next
    rw [same, magnitude_of_lt small]
    exact ⟨Nat.le_refl _, next⟩
  · -- the quotient cut down to the leading 53 binary digits is its place in a block
    have nonzero : quotient ≠ 0 := by
      rw [blockSize] at large
      omega
    obtain ⟨shift, length⟩ := Nat.exists_eq_add_of_le ((Nat.le_log2 nonzero).mpr large)
    have above := Nat.log2_self_le nonzero
    have below := Nat.lt_log2_self (n := quotient)
    rw [length, Nat.pow_add] at above
    rw [length, Nat.add_right_comm, Nat.pow_add] at below
    have positive := Nat.two_pow_pos shift
    have low : Nat.pow 2 52 ≤ quotient / 2 ^ shift := (Nat.le_div_iff_mul_le positive).mpr above
    have high : quotient / 2 ^ shift < 2 * Nat.pow 2 52 :=
      (Nat.div_lt_iff_lt_mul positive).mpr below
    have here : rankBelow quotient = shift * Nat.pow 2 52 + quotient / 2 ^ shift := by
      simp only [rankBelow, length, Nat.add_sub_cancel_left, Nat.pow_eq]
    rw [here, Nat.add_assoc, magnitude_in_block shift low (Nat.le_of_lt high),
      magnitude_in_block shift (Nat.le_succ_of_le low) high, Nat.mul_comm (_ + 1)]
    exact ⟨Nat.div_mul_le_self quotient _, Nat.lt_mul_div_succ quotient positive⟩

/-! ### The nearest rank -/

theorem unitsInOne_pos : 0 < unitsInOne := by
  delta unitsInOne
  -- the power is too long to be computed
  generalize 1074 = places
  exact Nat.pow_pos (by decide)

/-- Whether a ratio is past the middle between a magnitude and the next one. At the middle it is if
the next rank is the even one. -/
def IsPastMiddle (numerator denominator rank : Nat) : Prop :=
  (magnitude rank + magnitude (rank + 1)) * denominator < 2 * (numerator * unitsInOne) ∨
    (magnitude rank + magnitude (rank + 1)) * denominator = 2 * (numerator * unitsInOne) ∧
      rank % 2 = 1

section

variable {numerator denominator rank : Nat}

theorem nearestRank_eq (numerator denominator : Nat) :
    (IsPastMiddle numerator denominator (rankBelow (numerator * unitsInOne / denominator)) ∧
      nearestRank numerator denominator =
        rankBelow (numerator * unitsInOne / denominator) + 1) ∨
    (¬ IsPastMiddle numerator denominator (rankBelow (numerator * unitsInOne / denominator)) ∧
      nearestRank numerator denominator =
        rankBelow (numerator * unitsInOne / denominator)) := by
  unfold nearestRank IsPastMiddle
  dsimp only
  generalize rankBelow (numerator * unitsInOne / denominator) = below
  split
  next less => exact .inr ⟨by omega, rfl⟩
  next =>
    split
    next more => exact .inl ⟨.inl more, rfl⟩
    next =>
      split
      next => exact .inr ⟨by omega, rfl⟩
      next => exact .inl ⟨by omega, rfl⟩

/-- The ranks under the nearest one are those whose middle the ratio has passed. -/
theorem lt_nearestRank_iff (positive : 0 < denominator) :
    rank < nearestRank numerator denominator ↔ IsPastMiddle numerator denominator rank := by
  have bounds := rankBelow_bounds (numerator * unitsInOne / denominator)
  have nearest := nearestRank_eq numerator denominator
  generalize rankBelow (numerator * unitsInOne / denominator) = below at bounds nearest
  rw [Nat.le_div_iff_mul_le positive, Nat.div_lt_iff_lt_mul positive] at bounds
  have next := magnitude_lt_succ rank
  rcases Nat.lt_trichotomy rank below with lower | same | higher
  · -- both magnitudes at the middle are at most the one below the ratio
    have passed : IsPastMiddle numerator denominator rank := by
      have first := Nat.mul_lt_mul_of_pos_right (magnitude_strictMono lower) positive
      have second := Nat.mul_le_mul_right denominator
        (magnitude_strictMono.monotone (show rank + 1 ≤ below from lower))
      refine .inl ?_
      rw [Nat.add_mul]
      omega
    exact iff_of_true (by omega) passed
  · subst same
    rcases nearest with ⟨passed, same⟩ | ⟨ahead, same⟩
    · exact iff_of_true (by omega) passed
    · exact iff_of_false (by omega) ahead
  · -- both magnitudes at the middle are above the ratio
    have ahead : ¬ IsPastMiddle numerator denominator rank := by
      have first := Nat.mul_le_mul_right denominator
        (magnitude_strictMono.monotone (show below + 1 ≤ rank from higher))
      have second := Nat.mul_le_mul_right denominator (Nat.le_of_lt next)
      unfold IsPastMiddle
      rw [Nat.add_mul]
      omega
    exact iff_of_false (by omega) ahead

/-- A greater ratio has no smaller nearest rank. -/
theorem nearestRank_mono {above below : Nat} (positive : 0 < denominator) (other : 0 < below)
    (less : numerator * below ≤ above * denominator) :
    nearestRank numerator denominator ≤ nearestRank above below := by
  -- otherwise the smaller ratio is past a middle that the greater one has not passed
  by_contra more
  have passed := (lt_nearestRank_iff positive).mp (Nat.lt_of_not_le more)
  refine Nat.lt_irrefl (nearestRank above below) ((lt_nearestRank_iff other).mpr ?_)
  generalize nearestRank above below = rank at passed ⊢
  have scaled := Nat.mul_le_mul_left (2 * unitsInOne) less
  unfold IsPastMiddle at passed ⊢
  generalize magnitude rank + magnitude (rank + 1) = middle at passed ⊢
  have left : 2 * (above * unitsInOne) * denominator = 2 * unitsInOne * (above * denominator) := by
    ring
  have right : 2 * (numerator * unitsInOne) * below = 2 * unitsInOne * (numerator * below) := by
    ring
  have turned : middle * denominator * below = middle * below * denominator := by ring
  rcases passed with beyond | ⟨level, odd⟩
  · refine .inl (Nat.lt_of_mul_lt_mul_right (a := denominator) ?_)
    have := Nat.mul_lt_mul_of_pos_right beyond other
    omega
  · have reached : middle * below ≤ 2 * (above * unitsInOne) := by
      refine Nat.le_of_mul_le_mul_right ?_ positive
      rw [← turned, level]
      omega
    omega

/-- A ratio that is a magnitude has its rank. -/
theorem nearestRank_of_magnitude (positive : 0 < denominator)
    (exactly : numerator * unitsInOne = magnitude rank * denominator) :
    nearestRank numerator denominator = rank := by
  -- it is before the middle above its own magnitude and past the one below
  have next := Nat.mul_lt_mul_of_pos_right (magnitude_lt_succ rank) positive
  refine Nat.le_antisymm ?_ ?_
  · by_contra more
    have passed := (lt_nearestRank_iff positive).mp (Nat.lt_of_not_le more)
    rw [IsPastMiddle, exactly, Nat.add_mul] at passed
    omega
  · cases rank with
    | zero => exact Nat.zero_le _
    | succ earlier =>
      have previous := Nat.mul_lt_mul_of_pos_right (magnitude_lt_succ earlier) positive
      refine (lt_nearestRank_iff positive).mpr (.inl ?_)
      rw [exactly, Nat.add_mul]
      omega

end

end FleetQuery.Binary64
