import FleetQuery.Text.Blank
import FleetQuery.Text.LowerCase
import Mathlib

/-!
# ASCII case

Lower-casing beside the lowering of ASCII letters alone. The two agree on ASCII text, and no
character but an ASCII letter lowers to one, except for the Kelvin sign. Main statement:
`lowerChar_eq_singleton_iff`.
-/
namespace FleetQuery.Text

/-! ### Lowering one character -/

theorem toNat_toLower (c : Char) :
    c.toLower.toNat = if 65 ≤ c.toNat ∧ c.toNat ≤ 90 then c.toNat + 32 else c.toNat := by
  unfold Char.toLower
  by_cases upper : 65 ≤ c.toNat ∧ c.toNat ≤ 90
  · have inside : c.val ≥ 'A'.val ∧ c.val ≤ 'Z'.val :=
      ⟨UInt32.le_iff_toNat_le.mpr upper.1, UInt32.le_iff_toNat_le.mpr upper.2⟩
    rw [dif_pos inside, if_pos upper]
    -- the sum does not wrap, since the code of an upper case letter is small
    have bound : c.val.toNat ≤ 90 := upper.2
    change (c.val + ('a'.val - 'A'.val)).toNat = c.val.toNat + 32
    rw [UInt32.toNat_add]
    change (c.val.toNat + 32) % 2 ^ 32 = _
    omega
  · have outside : ¬ (c.val ≥ 'A'.val ∧ c.val ≤ 'Z'.val) := fun inside =>
      upper ⟨UInt32.le_iff_toNat_le.mp inside.1, UInt32.le_iff_toNat_le.mp inside.2⟩
    rw [dif_neg outside, if_neg upper]

theorem ascii_of_map_toLower {chars : List Char}
    (ascii : ∀ c ∈ chars.map Char.toLower, c.toNat < 128) : ∀ c ∈ chars, c.toNat < 128 := by
  intro c member
  have lowered := ascii _ (List.mem_map_of_mem member)
  rw [toNat_toLower] at lowered
  split at lowered <;> omega

theorem eq_of_toNat_eq {c d : Char} (same : c.toNat = d.toNat) : c = d := by
  rw [← Char.ofNat_toNat c, same, Char.ofNat_toNat]

/-- A character that is not an ASCII letter is its own lower form, and the only one with it. -/
theorem toLower_eq_iff (c letter : Char) (plain : ¬ (97 ≤ letter.toNat ∧ letter.toNat ≤ 122))
    (small : ¬ (65 ≤ letter.toNat ∧ letter.toNat ≤ 90)) : c.toLower = letter ↔ c = letter := by
  have lowered := toNat_toLower c
  constructor
  · intro same
    rw [same] at lowered
    apply eq_of_toNat_eq
    split at lowered <;> omega
  · rintro rfl
    apply eq_of_toNat_eq
    rw [lowered, if_neg small]

/-- Blanks are blanks in either case. -/
theorem isBlank_toLower (c : Char) : isBlank c.toLower = isBlank c := by
  have lowered := toNat_toLower c
  split at lowered
  next upper =>
    have first : isBlank c = false := by
      simp [isBlank, inRanges, blankRanges]
      omega
    have second : isBlank c.toLower = false := by
      simp [isBlank, inRanges, blankRanges]
      omega
    rw [first, second]
  next => rw [eq_of_toNat_eq lowered]

theorem isAlphanum_iff (c : Char) : c.isAlphanum = true ↔
    (65 ≤ c.toNat ∧ c.toNat ≤ 90) ∨ (97 ≤ c.toNat ∧ c.toNat ≤ 122) ∨
      (48 ≤ c.toNat ∧ c.toNat ≤ 57) := by
  simp only [Char.isAlphanum, Char.isAlpha, Char.isUpper, Char.isLower, Char.isDigit,
    Bool.or_eq_true, Bool.and_eq_true, decide_eq_true_eq, UInt32.le_iff_toNat_le, ge_iff_le,
    or_assoc]
  rfl

/-- Letters are letters in either case. -/
theorem isAlphanum_toLower (c : Char) : c.toLower.isAlphanum = c.isAlphanum := by
  rw [Bool.eq_iff_iff, isAlphanum_iff, isAlphanum_iff, toNat_toLower]
  split <;> omega

/-! ### Full lowering -/

/-- The runs of the case table lead out of ASCII, but for the Kelvin sign. -/
theorem lowered_of_mem_caseRuns :
    ∀ run ∈ caseRuns, 128 ≤ run.lowered ∨ run.lowered = 'k'.toNat ∧ run.first = run.last := by
  decide +kernel

/-- A character lowers to a single ASCII character just if ASCII lowering takes it there. No phrase
of the language has the letter k, which the Kelvin sign lowers to as well. -/
theorem lowerChar_eq_singleton_iff (c letter : Char) (ascii : letter.toNat < 128)
    (visible : 0 < letter.toNat) (notKelvin : letter ≠ 'k') :
    lowerChar c = [letter] ↔ c.toLower = letter := by
  unfold lowerChar
  split
  next => simp
  next foreign =>
    -- outside ASCII only the case table matters, and it leads into ASCII for the Kelvin sign alone
    have kept : c.toLower = c := by
      apply eq_of_toNat_eq
      rw [toNat_toLower, if_neg (by omega)]
    have different : c ≠ letter := by
      rintro rfl
      exact foreign ascii
    rw [kept]
    split
    next => simp [different]
    next =>
      split
      next run found =>
        refine ⟨fun same => absurd ?_ notKelvin, fun same => absurd same different⟩
        have contained := List.find?_some found
        simp only [CaseRun.contains, Bool.and_eq_true, decide_eq_true_eq] at contained
        rw [List.cons.injEq] at same
        have code := congrArg Char.toNat same.1
        rcases lowered_of_mem_caseRuns run (List.mem_of_find?_eq_some found) with far | kelvin
        · unfold Char.ofNat at code
          split at code
          next valid =>
            have value : (Char.ofNatAux (run.lowered + (c.toNat - run.first)) valid).toNat =
              run.lowered + (c.toNat - run.first) := UInt32.toNat_ofNatLT
            omega
          next => exact absurd visible (by rw [← code]; decide)
        · have single : c.toNat - run.first = 0 := by omega
          rw [← same.1, single, kelvin.1, Nat.add_zero, Char.ofNat_toNat]
      next => simp [different]

theorem lowerFrom_ascii (before chars : List Char) (ascii : ∀ c ∈ chars, c.toNat < 128) :
    lowerFrom before chars = chars.map Char.toLower := by
  induction chars generalizing before with
  | nil => rfl
  | cons c rest ih =>
    have small := ascii c List.mem_cons_self
    have notSigma : c ≠ 'Σ' := by
      rintro rfl
      exact absurd small (by decide)
    rw [lowerFrom, if_neg notSigma, lowerChar_ascii c small,
      ih _ fun d member => ascii d (List.mem_cons_of_mem _ member)]
    rfl

/-- On ASCII text lower-casing is ASCII lowering. -/
theorem lowerChars_ascii (chars : List Char) (ascii : ∀ c ∈ chars, c.toNat < 128) :
    lowerChars chars = chars.map Char.toLower :=
  lowerFrom_ascii [] chars ascii

end FleetQuery.Text
