import FleetQuery.Execution
import FleetQuery.Proofs.Binary64.Numerals
import FleetQuery.Proofs.Text.FoldedNumbers
import Mathlib.Data.Int.Log

/-!
# Numbers in the text of cells

The text of a finite number denotes that number, to the last bit and with its sign, and it has an
exponent exactly where the leading digit is far from the point. Main statement:
`numberText_denotes`.
-/
namespace FleetQuery

/-- Text without blanks stays as it is when it is trimmed. -/
theorem Text.trimChars_of_solid {chars : List Char} (solid : ∀ c ∈ chars, isBlank c = false) :
    trimChars chars = chars := by
  have kept {text : List Char} (visible : ∀ c ∈ text, isBlank c = false) :
      text.dropWhile isBlank = text := by
    cases text with
    | nil => rfl
    | cons c rest => simp [visible c]
  rw [trimChars, kept solid, kept fun c member => solid c (List.mem_reverse.mp member),
    List.reverse_reverse]

namespace Binary64

/-- The exact value of a finite number. -/
def value : Binary64 → ℚ
  | finite negative rank => units negative rank / unitsInOne
  | _ => 0

/-- The exponent of the leading decimal digit of the exact value. -/
def decimalExponent (number : Binary64) : Int := Int.log 10 |number.value|

theorem abs_value_finite (negative : Bool) (rank : Fin magnitudes) :
    |(finite negative rank).value| = (magnitude rank : ℚ) / unitsInOne := by
  have size : |(units negative rank : ℚ)| = magnitude rank := by
    cases negative <;> simp [units]
  rw [value, abs_div, size, Nat.abs_cast]

/-! ### Where exponents begin -/

/-- Whether `least` is the first rank from a power of ten on, which is its shortest decimal there. -/
structure IsThreshold (exponent : Int) (numerator denominator least : Nat) : Prop where
  power : (10 : ℚ) ^ exponent = numerator / denominator
  positive : 0 < denominator
  first : shortest .upward least = ⟨1, exponent⟩
  reached : numerator * unitsInOne ≤ magnitude least * denominator
  missed : magnitude (least - 1) * denominator < numerator * unitsInOne

namespace IsThreshold

variable {exponent : Int} {numerator denominator least rank : Nat}
  (threshold : IsThreshold exponent numerator denominator least)

include threshold

/-- From the threshold on, the exact value is at least the power of ten. -/
theorem le_value_iff : (10 : ℚ) ^ exponent ≤ (magnitude rank : ℚ) / unitsInOne ↔ least ≤ rank := by
  obtain ⟨power, positive, _, reached, missed⟩ := threshold
  have units := unitsInOne_pos
  generalize unitsInOne = one at reached missed units ⊢
  rw [power, div_le_div_iff₀ (by exact_mod_cast positive) (by exact_mod_cast units)]
  norm_cast
  constructor
  · intro enough
    -- every magnitude before the threshold is at most the one that misses the power
    by_contra below
    have smaller := Nat.mul_le_mul_right denominator
      (magnitude_strictMono.monotone (show rank ≤ least - 1 by omega))
    omega
  · intro above
    exact reached.trans (Nat.mul_le_mul_right denominator (magnitude_strictMono.monotone above))

/-- From the threshold on, the leading digit of the shortest decimal has at least the exponent. -/
theorem le_leading_iff (nonzero : rank ≠ 0) :
    exponent ≤ (shortest .upward rank).leading ↔ least ≤ rank := by
  have decimal : (shortest .upward rank).significand ≠ 0 := by
    intro none
    have reads := rank_shortest .upward rank
    generalize shortest .upward rank = decimal at none reads
    obtain ⟨significand, exponent⟩ := decimal
    subst none
    exact nonzero (reads.symm.trans (Decimal.rank_zero exponent))
  -- the power of ten has the rank of the threshold, and ranks grow with values
  obtain ⟨low, high⟩ := Decimal.value_bounds decimal
  have here : (⟨1, exponent⟩ : Decimal).rank = least := threshold.first ▸ rank_shortest .upward least
  constructor
  · intro enough
    have more : (⟨1, exponent⟩ : Decimal).value ≤ (shortest .upward rank).value := by
      rw [Decimal.value_power]
      exact (zpow_le_zpow_right₀ (by norm_num) enough).trans low
    rw [← here, ← rank_shortest .upward rank]
    exact Decimal.rank_mono more
  · intro above
    rcases Nat.eq_or_lt_of_le above with rfl | beyond
    · have single : digitCount 1 = 1 := rfl
      rw [threshold.first, Decimal.leading, single]
      simp
    · by_contra less
      have fewer : (shortest .upward rank).value ≤ (⟨1, exponent⟩ : Decimal).value := by
        rw [Decimal.value_power]
        exact high.le.trans (zpow_le_zpow_right₀ (by norm_num) (by omega))
      have lower := Decimal.rank_mono fewer
      rw [here, rank_shortest] at lower
      omega

end IsThreshold

theorem thresholds_checked :
    (shortest .upward 4547007122018943789 = ⟨1, -4⟩ ∧
      1 * unitsInOne ≤ magnitude 4547007122018943789 * 10000 ∧
      magnitude (4547007122018943789 - 1) * 10000 < 1 * unitsInOne) ∧
    (shortest .upward 4846369599423283200 = ⟨1, 16⟩ ∧
      10000000000000000 * unitsInOne ≤ magnitude 4846369599423283200 * 1 ∧
      magnitude (4846369599423283200 - 1) * 1 < 10000000000000000 * unitsInOne) := by
  decide +kernel

theorem threshold_low : IsThreshold (-4) 1 10000 4547007122018943789 := by
  obtain ⟨⟨first, reached, missed⟩, _⟩ := thresholds_checked
  exact ⟨by norm_num, by decide, first, reached, missed⟩

theorem threshold_high : IsThreshold 16 10000000000000000 1 4846369599423283200 := by
  obtain ⟨_, first, reached, missed⟩ := thresholds_checked
  exact ⟨by norm_num, by decide, first, reached, missed⟩

/-- The text of a number has an exponent exactly if its exact value is far from one. -/
theorem hasExponent_iff (negative : Bool) (rank : Fin magnitudes) :
    HasExponent Cell.numeralStyle rank ↔ (finite negative rank).isZero = false ∧
      ((finite negative rank).decimalExponent < -4 ∨
        16 ≤ (finite negative rank).decimalExponent) := by
  have zero : (finite negative rank).isZero = false ↔ rank.val ≠ 0 := by simp [isZero]
  rw [HasExponent, zero]
  refine and_congr_right fun nonzero => ?_
  have positive : (0 : ℚ) < |(finite negative rank).value| := by
    have first := magnitude_strictMono (Nat.pos_of_ne_zero nonzero)
    have some : 0 < magnitude rank := Nat.lt_of_le_of_lt (Nat.zero_le _) first
    have units := unitsInOne_pos
    rw [abs_value_finite]
    generalize unitsInOne = one at units ⊢
    positivity
  -- at both thresholds the shortest decimal begins with the digit that the exact value begins with
  have level {exponent : Int} {numerator denominator least : Nat}
      (threshold : IsThreshold exponent numerator denominator least) :
      exponent ≤ (shortest .upward rank).leading ↔
        exponent ≤ (finite negative rank).decimalExponent := by
    have value : (10 : ℚ) ^ exponent ≤ (magnitude rank.val : ℚ) / unitsInOne ↔ least ≤ rank.val :=
      threshold.le_value_iff
    rw [threshold.le_leading_iff nonzero, ← value, ← abs_value_finite negative rank]
    exact Int.zpow_le_iff_le_log (by decide) positive
  have low := level threshold_low
  have high := level threshold_high
  simp only [Cell.numeralStyle]
  omega

/-! ### Characters of a text -/

/-- The text of a number holds digits, a point, signs and the letter of an exponent. -/
theorem mem_writeFinite {style : NumeralStyle} {negative : Bool} {rank : Nat} {c : Char}
    (member : c ∈ writeFinite style negative rank) :
    c.isDigit ∨ c = '.' ∨ c = '-' ∨ c = '+' ∨ c = 'e' ∧ HasExponent style rank := by
  obtain ⟨digits, layout, tail, exponent, decimal, text, form⟩ := exists_layout style rank
  rw [writeFinite, text, List.mem_append] at member
  rcases member with sign | member
  · cases negative <;> simp_all
  · rcases layout.mem_text decimal member with digit | point | behind
    · exact .inl digit
    · exact .inr (.inl point)
    · rcases form with ⟨has, rfl⟩ | ⟨_, rfl, _⟩
      · obtain ⟨sign, digits, shown, signed, _, decimal⟩ :=
          exists_exponentText_eq style.exponentDigits exponent
        rw [shown, List.mem_cons, List.mem_cons] at behind
        rcases behind with letter | rfl | digit
        · exact .inr (.inr (.inr (.inr ⟨letter, has⟩)))
        · tauto
        · exact .inl (decimal c digit)
      · cases behind

end Binary64

namespace Cell

/-- Whether a text ends with an exponent: the letter, a sign and at least two digits. -/
def WritesExponent (text : String) : Prop :=
  ∃ mantissa sign digits, text.toList = mantissa ++ 'e' :: sign :: digits ∧
    (sign = '+' ∨ sign = '-') ∧ 2 ≤ digits.length ∧ ∀ c ∈ digits, c.isDigit

open Binary64

variable (negative : Bool) (rank : Fin magnitudes)

theorem readNumber_numberText :
    readNumber (numberText (.finite negative rank)) = some (.finite negative rank) := by
  have solid : ∀ c ∈ writeFinite numeralStyle negative rank, Text.isBlank c = false := by
    intro c member
    rcases mem_writeFinite member with digit | rfl | rfl | rfl | ⟨rfl, _⟩
    · exact Text.isBlank_of_isDigit digit
    all_goals rfl
  rw [readNumber, numberText, String.toList_ofList, Text.trimChars_of_solid solid,
    read_writeFinite]

theorem writesExponent_of_hasExponent (has : HasExponent numeralStyle rank) :
    WritesExponent (numberText (.finite negative rank)) := by
  obtain ⟨digits, layout, tail, exponent, _, text, form⟩ := exists_layout numeralStyle rank
  rcases form with ⟨_, rfl⟩ | ⟨without, _⟩
  · obtain ⟨sign, digits, shown, signed, size, decimal⟩ := exists_exponentText_eq 2 exponent
    refine ⟨(if negative then ['-'] else []) ++ (layout.whole ++ pointed layout.fraction), sign,
      digits, ?_, signed, size, decimal⟩
    rw [numberText, String.toList_ofList, writeFinite, text, Layout.text, ← shown]
    simp [numeralStyle]
  · exact absurd has without

theorem hasExponent_of_mem (member : 'e' ∈ (numberText (.finite negative rank)).toList) :
    HasExponent numeralStyle rank := by
  rw [numberText, String.toList_ofList] at member
  simpa using mem_writeFinite member

/-- The text of a finite number denotes the number again, with its sign and to the last bit, so two
machines with numbers in the column of a key have the same value of the key exactly if the numbers
are the same. The text has an exponent, with a sign and at least two digits, exactly if the number is
not zero and the leading digit of its exact value has an exponent below -4 or from 16 on; otherwise
there is not even its letter. -/
theorem numberText_denotes (number : Binary64) (finite : number.isFinite = true) :
    readNumber (numberText number) = some number ∧
    (∀ other : Binary64, other.isFinite = true →
      ∀ (key : HeadedField) (first second : Machine), first.cell key.field = .number number →
        second.cell key.field = .number other →
          (Table.keyOf (some key) first = Table.keyOf (some key) second ↔ number = other)) ∧
    (WritesExponent (numberText number) ↔ number.isZero = false ∧
      (number.decimalExponent < -4 ∨ 16 ≤ number.decimalExponent)) ∧
    ('e' ∈ (numberText number).toList → WritesExponent (numberText number)) := by
  cases number with
  | nan => cases finite
  | infinite _ => cases finite
  | finite negative rank =>
    refine ⟨readNumber_numberText negative rank, ?_, ?_, ?_⟩
    · intro other bounded key first second here there
      have keys : Table.keyOf (some key) first = Table.keyOf (some key) second ↔
          numberText (.finite negative rank) = numberText other := by
        simp [Table.keyOf, here, there, toText?]
      rw [keys]
      refine ⟨fun same => ?_, fun same => same ▸ rfl⟩
      -- equal texts are read as one number
      cases other with
      | nan => cases bounded
      | infinite _ => cases bounded
      | finite sign place =>
        have read := readNumber_numberText sign place
        rw [← same, readNumber_numberText] at read
        exact Option.some.inj read
    · rw [← hasExponent_iff]
      refine ⟨fun written => ?_, writesExponent_of_hasExponent negative rank⟩
      obtain ⟨mantissa, sign, digits, shown, _⟩ := written
      exact hasExponent_of_mem negative rank (by simp [shown])
    · intro member
      exact writesExponent_of_hasExponent negative rank (hasExponent_of_mem negative rank member)

/-- The number next to zero from below: its text is read as it again, it is another key than zero
with a minus sign is, and its text has an exponent. -/
theorem numberText_denotes_least :
    (Binary64.finite true ⟨1, by decide⟩).isFinite = true ∧
    numberText (.finite true ⟨1, by decide⟩) = "-5e-324" ∧
    readNumber "-5e-324" = some (.finite true ⟨1, by decide⟩) ∧
    Table.keyOf (some ⟨"memory_gb", .memoryGb⟩)
        { Machine.blank with memoryGb := some (.finite true ⟨1, by decide⟩) } ≠
      Table.keyOf (some ⟨"memory_gb", .memoryGb⟩)
        { Machine.blank with memoryGb := some (.finite true ⟨0, by decide⟩) } ∧
    WritesExponent "-5e-324" ∧
    ((Binary64.finite true ⟨1, by decide⟩).decimalExponent < -4 ∨
      16 ≤ (Binary64.finite true ⟨1, by decide⟩).decimalExponent) := by
  have shown : numberText (.finite true ⟨1, by decide⟩) = "-5e-324" := by decide +kernel
  obtain ⟨read, keys, written, letter⟩ := numberText_denotes (.finite true ⟨1, by decide⟩) rfl
  rw [shown] at read written letter
  have exponent : WritesExponent "-5e-324" := letter (by decide)
  refine ⟨rfl, shown, read, fun same => ?_, exponent, (written.mp exponent).2⟩
  have differ : Binary64.finite true ⟨1, by decide⟩ ≠ .finite true ⟨0, by decide⟩ := by decide
  exact differ ((keys _ rfl _ _ _ rfl rfl).mp same)

end Cell
end FleetQuery
