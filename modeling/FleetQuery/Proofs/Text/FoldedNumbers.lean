import FleetQuery.Cell
import FleetQuery.Proofs.Text.Folding
import FleetQuery.Question.Limit

/-!
# Numbers in folded texts

Signs, digits and points are no letters, so a folding leaves them alone; an exponent may be marked in
either case and the names of special values are read in any. A folded text denotes the same number.
-/
namespace FleetQuery

/-! ### Digits -/

namespace Text

theorem isDigit_iff (c : Char) : c.isDigit = true ↔ 48 ≤ c.toNat ∧ c.toNat ≤ 57 := by
  simp only [Char.isDigit, Bool.and_eq_true, decide_eq_true_eq, UInt32.le_iff_toNat_le, ge_iff_le]
  rfl

theorem isBlank_of_isDigit {c : Char} (digit : c.isDigit) : isBlank c = false := by
  have bounds := (isDigit_iff _).mp digit
  simp [isBlank, inRanges, blankRanges]
  omega

theorem isDigit_toLower (c : Char) : c.toLower.isDigit = c.isDigit := by
  rw [Bool.eq_iff_iff, isDigit_iff, isDigit_iff, toNat_toLower]
  split <;> omega

namespace Folding

variable (folding : Folding)

/-- A character that is no letter is not folded. -/
theorem char_of_no_letter {c : Char} (plain : ¬ (97 ≤ c.toNat ∧ c.toNat ≤ 122))
    (small : ¬ (65 ≤ c.toNat ∧ c.toNat ≤ 90)) : folding.char c = c :=
  (folding.char_eq_iff c c plain small).mpr rfl

theorem isDigit_char (c : Char) : (folding.char c).isDigit = c.isDigit := by
  rw [← isDigit_toLower, folding.toLower_char, isDigit_toLower]

theorem map_of_digits {chars : List Char} (digits : chars.all Char.isDigit = true) :
    chars.map folding.char = chars := by
  have kept : chars.map folding.char = chars.map id := by
    refine List.map_congr_left fun c member => ?_
    have digit := (isDigit_iff c).mp (List.all_eq_true.mp digits c member)
    exact folding.char_of_no_letter (by omega) (by omega)
  rw [kept, List.map_id]

theorem all_isDigit_map (chars : List Char) :
    (chars.map folding.char).all Char.isDigit = chars.all Char.isDigit := by
  rw [List.all_map]
  exact congrArg chars.all (funext folding.isDigit_char)

end Folding
end Text

namespace Binary64

open Text (Folding)

variable (folding : Folding)

theorem spanDigits_map (chars : List Char) : spanDigits (chars.map folding.char) =
    ((spanDigits chars).1, (spanDigits chars).2.map folding.char) := by
  have same : Char.isDigit ∘ folding.char = Char.isDigit := funext folding.isDigit_char
  have digits : (chars.takeWhile Char.isDigit).map folding.char = chars.takeWhile Char.isDigit :=
    folding.map_of_digits List.all_takeWhile
  rw [spanDigits, spanDigits, List.takeWhile_map, List.dropWhile_map, same, digits]

/-! ### Signs, points and exponents -/

theorem splitSign_map (chars : List Char) : splitSign (chars.map folding.char) =
    ((splitSign chars).1, (splitSign chars).2.map folding.char) := by
  cases chars with
  | nil => rfl
  | cons c rest =>
    have minus := folding.char_eq_iff c '-' (by decide) (by decide)
    have plus := folding.char_eq_iff c '+' (by decide) (by decide)
    rw [List.map_cons]
    unfold splitSign
    split <;> split <;> simp_all

theorem spanFraction_of_other {c : Char} {rest : List Char} (other : c ≠ '.') :
    spanFraction (c :: rest) = ([], c :: rest) := by
  unfold spanFraction
  split
  next point =>
    rw [List.cons.injEq] at point
    exact absurd point.1 other
  next => rfl

theorem spanFraction_map (chars : List Char) : spanFraction (chars.map folding.char) =
    ((spanFraction chars).1, (spanFraction chars).2.map folding.char) := by
  cases chars with
  | nil => rfl
  | cons c rest =>
    have point := folding.char_eq_iff c '.' (by decide) (by decide)
    by_cases here : c = '.'
    · rw [List.map_cons, point.mpr here, here]
      exact spanDigits_map folding rest
    · rw [List.map_cons, spanFraction_of_other fun folded => here (point.mp folded),
        spanFraction_of_other here]
      rfl

theorem isMark_iff (c : Char) : (c == 'e' || c == 'E') = (c.toLower == 'e') := by
  rw [Bool.eq_iff_iff, Bool.or_eq_true, beq_iff_eq, beq_iff_eq, beq_iff_eq]
  constructor
  · rintro (rfl | rfl) <;> rfl
  · intro mark
    have letter : 'e'.toNat = 101 := rfl
    have code := Text.toNat_toLower c
    rw [mark, letter] at code
    split at code
    next => exact .inr (Text.eq_of_toNat_eq (show c.toNat = 69 by omega))
    next => exact .inl (Text.eq_of_toNat_eq (show c.toNat = 101 by omega))

theorem isMark_char (c : Char) : (folding.char c == 'e' || folding.char c == 'E') =
    (c == 'e' || c == 'E') := by
  rw [isMark_iff, isMark_iff, folding.toLower_char]

theorem readExponent_map (chars : List Char) :
    readExponent (chars.map folding.char) = readExponent chars := by
  cases chars with
  | nil => rfl
  | cons mark rest =>
    rw [List.map_cons, readExponent, readExponent]
    simp only [splitSign_map, isMark_char, List.isEmpty_map, folding.all_isDigit_map]
    split
    next shape =>
      simp only [Bool.and_eq_true] at shape
      rw [folding.map_of_digits shape.2]
    next => rfl

theorem readName_map (negative : Bool) (chars : List Char) :
    readName negative (chars.map folding.char) = readName negative chars := by
  have same : Char.toLower ∘ folding.char = Char.toLower := funext folding.toLower_char
  rw [readName, readName, List.map_map, same]

theorem read_map (chars : List Char) : read (chars.map folding.char) = read chars := by
  simp only [read, readUnsigned, splitSign_map, spanDigits_map, spanFraction_map, readName_map,
    readExponent_map]

end Binary64

theorem Cell.readNumber_text (folding : Text.Folding) (text : String) :
    readNumber (folding.text text) = readNumber text := by
  rw [readNumber, readNumber, Text.Folding.text, String.toList_ofList, folding.trimChars_map,
    Binary64.read_map]

theorem Limit.ofWord_map (folding : Text.Folding) (word : List Char) :
    ofWord (word.map folding.char) = ofWord word := by
  simp only [ofWord, Binary64.splitSign_map, List.isEmpty_map, folding.all_isDigit_map]
  split
  next => rfl
  next shape =>
    simp only [Bool.or_eq_true, Bool.not_eq_true', not_or, Bool.not_eq_false] at shape
    rw [folding.map_of_digits shape.2]

end FleetQuery
