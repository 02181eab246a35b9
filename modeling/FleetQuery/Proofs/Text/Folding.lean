import FleetQuery.Catalog
import FleetQuery.Proofs.Text.Words

/-!
# Folding of texts

A folding changes nothing of a character but the case of an ASCII letter. Blanks, lower forms and
what the catalog knows are the same after a folding, and trimming and squeezing commute with it.
-/
namespace FleetQuery.Text

structure Folding where
  char : Char → Char
  toLower_char : ∀ c, (char c).toLower = c.toLower

theorem toLower_toLower (c : Char) : c.toLower.toLower = c.toLower := by
  apply eq_of_toNat_eq
  have once := toNat_toLower c
  have twice := toNat_toLower c.toLower
  split at once <;> split at twice <;> omega

namespace Folding

/-- Texts as they are. -/
def exact : Folding := ⟨id, fun _ => rfl⟩

/-- Texts up to the case of ASCII letters. -/
def ignoringCase : Folding := ⟨Char.toLower, toLower_toLower⟩

def text (folding : Folding) (text : String) : String :=
  String.ofList (text.toList.map folding.char)

theorem text_exact : exact.text = id := by
  funext text
  simp [Folding.text, exact]

end Folding

/-! ### Characters -/

theorem lowerChar_toLower (c : Char) : lowerChar c.toLower = lowerChar c := by
  by_cases ascii : c.toNat < 128
  · have small : c.toLower.toNat < 128 := by
      rw [toNat_toLower]
      split <;> omega
    rw [lowerChar_ascii c ascii, lowerChar_ascii _ small, toLower_toLower]
  · have kept : c.toLower = c := by
      apply eq_of_toNat_eq
      rw [toNat_toLower, if_neg (by omega)]
    rw [kept]

/-- A property of code points that does not tell the two cases of an ASCII letter apart. -/
theorem inRanges_toLower {ranges : List (Nat × Nat)} (value : Bool)
    (letters : ∀ code, 65 ≤ code ∧ code ≤ 90 ∨ 97 ≤ code ∧ code ≤ 122 →
      inRanges ranges code = value) (c : Char) :
    inRanges ranges c.toLower.toNat = inRanges ranges c.toNat := by
  rw [toNat_toLower]
  split
  next upper => rw [letters _ (.inl upper), letters _ (.inr (by omega))]
  next => rfl

theorem isCased_toLower (c : Char) : isCased c.toLower = isCased c := by
  apply inRanges_toLower true
  intro code letter
  rw [inRanges_iff]
  rcases letter with upper | lower
  · exact ⟨(65, 90), by decide, upper⟩
  · exact ⟨(97, 122), by decide, lower⟩

theorem caseIgnorableRanges_apart : ∀ range ∈ caseIgnorableRanges,
    range.2 < 65 ∨ 90 < range.1 ∧ range.2 < 97 ∨ 122 < range.1 := by
  decide +kernel

theorem isCaseIgnorable_toLower (c : Char) : isCaseIgnorable c.toLower = isCaseIgnorable c := by
  apply inRanges_toLower false
  intro code letter
  rw [← Bool.not_eq_true, inRanges_iff]
  rintro ⟨range, listed, inside⟩
  have apart := caseIgnorableRanges_apart range listed
  omega

namespace Folding

variable (folding : Folding)

theorem lowerChar_char (c : Char) : lowerChar (folding.char c) = lowerChar c := by
  rw [← lowerChar_toLower, folding.toLower_char, lowerChar_toLower]

theorem isBlank_char (c : Char) : isBlank (folding.char c) = isBlank c := by
  rw [← isBlank_toLower, folding.toLower_char, isBlank_toLower]

theorem isAlphanum_char (c : Char) : (folding.char c).isAlphanum = c.isAlphanum := by
  rw [← isAlphanum_toLower, folding.toLower_char, isAlphanum_toLower]

theorem isCased_char (c : Char) : isCased (folding.char c) = isCased c := by
  rw [← isCased_toLower, folding.toLower_char, isCased_toLower]

theorem isCaseIgnorable_char (c : Char) :
    isCaseIgnorable (folding.char c) = isCaseIgnorable c := by
  rw [← isCaseIgnorable_toLower, folding.toLower_char, isCaseIgnorable_toLower]

/-- Characters other than ASCII letters are not folded. -/
theorem char_eq_iff (c other : Char) (plain : ¬ (97 ≤ other.toNat ∧ other.toNat ≤ 122))
    (small : ¬ (65 ≤ other.toNat ∧ other.toNat ≤ 90)) : folding.char c = other ↔ c = other := by
  rw [← toLower_eq_iff _ other plain small, folding.toLower_char, toLower_eq_iff _ _ plain small]

/-! ### Lower case -/

theorem reachesCased_map (chars : List Char) :
    reachesCased (chars.map folding.char) = reachesCased chars := by
  have same : isCaseIgnorable ∘ folding.char = isCaseIgnorable :=
    funext folding.isCaseIgnorable_char
  rw [reachesCased, reachesCased, List.dropWhile_map, same]
  cases chars.dropWhile isCaseIgnorable with
  | nil => rfl
  | cons c rest => exact folding.isCased_char c

theorem lowerFrom_map (before chars : List Char) :
    lowerFrom (before.map folding.char) (chars.map folding.char) = lowerFrom before chars := by
  induction chars generalizing before with
  | nil => rfl
  | cons c rest ih =>
    have later := ih (c :: before)
    rw [List.map_cons] at later
    simp only [List.map_cons, lowerFrom, later, lowerSigma, reachesCased_map, lowerChar_char,
      folding.char_eq_iff c 'Σ' (by decide) (by decide)]

theorem lowerChars_map (chars : List Char) : lowerChars (chars.map folding.char) = lowerChars chars :=
  folding.lowerFrom_map [] chars

theorem lower_text (text : String) : lower (folding.text text) = lower text := by
  rw [lower, lower, Folding.text, String.toList_ofList, lowerChars_map]

theorem sameIgnoringAsciiCase_map (left right : List Char) :
    sameIgnoringAsciiCase (left.map folding.char) right = sameIgnoringAsciiCase left right := by
  have same : Char.toLower ∘ folding.char = Char.toLower := funext folding.toLower_char
  rw [sameIgnoringAsciiCase, sameIgnoringAsciiCase, List.map_map, same]

/-! ### Blanks and words -/

theorem trimChars_map (chars : List Char) :
    trimChars (chars.map folding.char) = (trimChars chars).map folding.char := by
  have same : isBlank ∘ folding.char = isBlank := funext folding.isBlank_char
  simp only [trimChars, List.dropWhile_map, ← List.map_reverse, same]

theorem trim_text (text : String) : trim (folding.text text) = folding.text (trim text) := by
  simp only [trim, Folding.text, String.toList_ofList, trimChars_map]

theorem wordsFrom_map (word chars : List Char) :
    wordsFrom (word.map folding.char) (chars.map folding.char) =
      (wordsFrom word chars).map (List.map folding.char) := by
  induction chars generalizing word with
  | nil => cases word <;> simp [wordsFrom]
  | cons c rest ih =>
    have fresh := ih []
    have longer := ih (c :: word)
    rw [List.map_nil] at fresh
    rw [List.map_cons] at longer
    simp only [List.map_cons, wordsFrom, isBlank_char, fresh, longer, List.isEmpty_map]
    split
    next =>
      split
      next => rfl
      next => simp
    next => rfl

theorem intercalate_map (between : List Char) (texts : List (List Char)) :
    (between.map folding.char).intercalate (texts.map (List.map folding.char)) =
      (between.intercalate texts).map folding.char := by
  induction texts with
  | nil => rfl
  | cons text texts ih =>
    cases texts with
    | nil => simp
    | cons next texts =>
      rw [List.map_cons] at ih
      simp [List.intercalate_cons_cons, ih]

theorem squeeze_text (text : String) :
    squeeze (folding.text text) = folding.text (squeeze text) := by
  have space : [' '].map folding.char = [' '] := by
    rw [List.map_singleton, (folding.char_eq_iff ' ' ' ' (by decide) (by decide)).mpr rfl]
  have listed : ∀ chars : List (List Char),
      (chars.map String.ofList).map String.toList = chars := by
    intro chars
    rw [List.map_map]
    exact List.map_id'' (fun _ => String.toList_ofList) _
  have fresh := folding.wordsFrom_map [] text.toList
  rw [List.map_nil] at fresh
  apply String.toList_inj.mp
  simp only [squeeze, words, Folding.text, String.toList_intercalate, String.toList_ofList, fresh,
    listed]
  change [' '].intercalate _ = ([' '].intercalate _).map folding.char
  rw [← intercalate_map, space]

/-! ### The catalog -/

theorem normalize_text (text : String) :
    Catalog.normalize (folding.text text) = Catalog.normalize text := by
  rw [Catalog.normalize, trim_text, lower_text, ← Catalog.normalize]

theorem field?_text (catalog : Catalog) (label : String) :
    catalog.field? (folding.text label) = catalog.field? label := by
  rw [Catalog.field?, normalize_text, ← Catalog.field?]

end Folding
end FleetQuery.Text
