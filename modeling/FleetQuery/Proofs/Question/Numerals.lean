import FleetQuery.Proofs.Question.Reads
import FleetQuery.Proofs.Text.FoldedNumbers

/-!
# Words and numerals

A limit is written as a word. A word is a limit if it is a numeral, an optional sign with decimal
digits, and a minus only with zero; however many digits there are, it stands for their value or for
the greatest limit. Main statements: `ofWord_eq_ok_iff` and `ofWord_eq_error`.
-/
namespace FleetQuery

/-- The word that a text begins with. -/
def Text.firstWord (chars : List Char) : List Char := chars.takeWhile fun c => !isBlank c

theorem Span.between_self (span : Span) : between span.start span.stop = span := by
  obtain ⟨start, stop, ordered⟩ := span
  simp only [between, Nat.max_eq_right ordered]

namespace Window

variable {window : Window} {span : Span}

/-- A span of the window spells what it covers. -/
theorem spells_slice (inside : span.stop ≤ window.stop) :
    window.Spells span (window.slice span.start span.stop) := by
  have ordered := span.ordered
  obtain ⟨before, rest, length, reads⟩ := window.exists_reads (ordered.trans inside)
  have stop := reads.stop_eq
  have size : (rest.take (span.stop - span.start)).length = span.stop - span.start := by
    rw [List.length_take]
    omega
  rw [← List.take_append_drop (span.stop - span.start) rest] at reads
  have covered := reads.slice
  have ends : before.length + (span.stop - span.start) = span.stop := by omega
  rw [size, ends, length] at covered
  rw [covered]
  refine ⟨before, _, reads, ?_⟩
  rw [size, ends, length]
  exact span.between_self.symm

/-- A chunk without blanks has none at any of its positions. -/
theorem Reads.blankAt_of_solid {before chunk rest : List Char} {position : Nat}
    (reads : window.Reads before (chunk ++ rest)) (solid : ∀ c ∈ chunk, Text.isBlank c = false)
    (above : before.length ≤ position) (below : position < before.length + chunk.length) :
    window.blankAt position = false := by
  obtain ⟨left, c, right, rfl, rfl, here⟩ := reads.chunk_getElem? above below
  rw [← List.length_append, here.blankAt]
  exact solid c (by simp)

end Window

namespace Limit

variable {window : Window} {span : Span} {word sign digits : List Char}

/-! ### The first word -/

theorem firstWord_eq_between (inside : span.stop ≤ window.stop) :
    firstWord window span = .between span.start
      (span.start + (Text.firstWord (window.slice span.start span.stop)).length) := by
  obtain ⟨before, rest, reads, place⟩ := Window.spells_slice inside
  generalize window.slice span.start span.stop = text at reads place ⊢
  subst place
  have split : Text.firstWord text ++ text.dropWhile (fun c => !Text.isBlank c) = text :=
    List.takeWhile_append_dropWhile
  have solid : ∀ c ∈ Text.firstWord text, Text.isBlank c = false := by
    intro c member
    simpa using List.mem_takeWhile_imp member
  rw [firstWord, Span.start_between, Span.stop_between_add]
  congr 1
  cases behind : text.dropWhile fun c => !Text.isBlank c with
  | nil =>
    -- the word is the whole text
    rw [behind, List.append_nil] at split
    rw [split] at solid
    rw [firstIn_eq_none fun i above below => reads.blankAt_of_solid solid above below, split,
      Option.getD_none]
  | cons d more =>
    rw [behind] at split
    rw [← split, List.append_assoc] at reads
    have blank : Text.isBlank d = true := by
      have fails := List.head?_dropWhile_not (fun c => !Text.isBlank c) text
      rw [behind] at fails
      simpa using fails
    have length := congrArg List.length split
    rw [List.length_append, List.length_cons] at length
    have here := reads.append.blankAt
    rw [blank, List.length_append] at here
    rw [firstIn_eq_some here (fun i above below => reads.blankAt_of_solid solid above below)
      (Nat.le_add_right _ _) (by omega), Option.getD_some]

/-- The first word of a span is that of its text, where it stands. -/
theorem firstWord_spells (inside : span.stop ≤ window.stop) :
    window.Spells (firstWord window span)
      (Text.firstWord (window.slice span.start span.stop)) := by
  have place := firstWord_eq_between inside
  obtain ⟨before, rest, reads, covers⟩ := Window.spells_slice inside
  have start : span.start = before.length := by rw [covers, Span.start_between]
  have split : Text.firstWord (window.slice span.start span.stop) ++
      (window.slice span.start span.stop).dropWhile (fun c => !Text.isBlank c) =
        window.slice span.start span.stop := List.takeWhile_append_dropWhile
  rw [← split, List.append_assoc] at reads
  exact ⟨before, _, reads, by rw [place, start]⟩

/-! ### Numerals -/

/-- Whether a word is a numeral: an optional sign with decimal digits. -/
structure IsNumeral (word sign digits : List Char) : Prop where
  split : word = sign ++ digits
  signed : sign = [] ∨ sign = ['+'] ∨ sign = ['-']
  nonempty : digits ≠ []
  decimal : ∀ c ∈ digits, c.isDigit

/-- The value of decimal digits. -/
def valueOf (digits : List Char) : Nat := Nat.ofDigitChars 10 digits 0

/-- Whether a word is a numeral for a limit: it has no minus, or it is zero. -/
def Denotes (word : List Char) (rows : Nat) : Prop :=
  ∃ sign digits, IsNumeral word sign digits ∧ (sign = ['-'] → valueOf digits = 0) ∧
    rows = min (valueOf digits) 18446744073709551615

/-- Whether a word is a numeral below zero. -/
def IsNegative (word : List Char) : Prop :=
  ∃ digits, IsNumeral word ['-'] digits ∧ valueOf digits ≠ 0

theorem valueOf_eq_zero_iff (decimal : ∀ c ∈ digits, c.isDigit) :
    valueOf digits = 0 ↔ ∀ c ∈ digits, c = '0' := by
  induction digits using List.reverseRecOn with
  | nil => simp [valueOf]
  | append_singleton digits c ih =>
    obtain ⟨earlier, last⟩ := List.forall_mem_append.mp decimal
    have bounds := (Text.isDigit_iff c).mp (last c (List.mem_singleton_self c))
    have zero : c = '0' ↔ c.toNat - 48 = 0 := by
      rw [← Char.toNat_inj]
      have code : '0'.toNat = 48 := rfl
      omega
    have value : valueOf (digits ++ [c]) = 10 * valueOf digits + (c.toNat - 48) := by
      rw [valueOf, Nat.ofDigitChars_append]
      rfl
    rw [List.forall_mem_append, List.forall_mem_singleton, ← ih earlier, zero, value]
    omega

theorem not_isNumeral_nil (sign digits : List Char) : ¬ IsNumeral [] sign digits := fun numeral =>
  numeral.nonempty (List.append_eq_nil_iff.mp numeral.split.symm).2

/-- A numeral is divided into its sign and its digits. -/
theorem IsNumeral.splitSign (numeral : IsNumeral word sign digits) :
    Binary64.splitSign word = (sign == ['-'], digits) := by
  obtain ⟨rfl, rfl | rfl | rfl, nonempty, decimal⟩ := numeral
  · -- a digit is no sign
    unfold Binary64.splitSign
    split
    next minus =>
      rw [List.nil_append] at minus
      exact absurd (decimal '-' (minus ▸ List.mem_cons_self)) (by decide)
    next plus =>
      rw [List.nil_append] at plus
      exact absurd (decimal '+' (plus ▸ List.mem_cons_self)) (by decide)
    next => rfl
  · rfl
  · rfl

/-- What a word is divided into, whatever it is. -/
theorem exists_sign (word : List Char) : ∃ sign, (sign = [] ∨ sign = ['+'] ∨ sign = ['-']) ∧
    word = sign ++ (Binary64.splitSign word).2 := by
  unfold Binary64.splitSign
  split
  next => exact ⟨['-'], .inr (.inr rfl), rfl⟩
  next => exact ⟨['+'], .inr (.inl rfl), rfl⟩
  next => exact ⟨[], .inl rfl, rfl⟩

/-- A numeral is read as its value if it fits and there is no minus, whatever its length. -/
theorem ofWord_of_numeral (numeral : IsNumeral word sign digits) :
    ofWord word = if sign = ['-'] ∧ valueOf digits ≠ 0 then .error .negativeLimit
      else .ok (min (valueOf digits) 18446744073709551615) := by
  have proper : ¬ ((digits.isEmpty || !digits.all Char.isDigit) = true) := by
    rw [List.all_eq_true.mpr numeral.decimal, List.isEmpty_eq_false_iff.mpr numeral.nonempty]
    exact Bool.false_ne_true
  -- the test for a digit that is not zero is a test of the value
  have nonzero : (digits.any fun c => c != '0') = decide (valueOf digits ≠ 0) := by
    rw [Bool.eq_iff_iff, decide_eq_true_iff, Ne, valueOf_eq_zero_iff numeral.decimal]
    simp
  have signed : (sign == ['-'] && digits.any fun c => c != '0') = true ↔
      sign = ['-'] ∧ valueOf digits ≠ 0 := by
    rw [nonzero, Bool.and_eq_true, beq_iff_eq, decide_eq_true_iff]
  rw [ofWord, numeral.splitSign]
  simp only [proper, signed]
  rfl

theorem ofWord_of_other (other : ∀ sign digits, ¬ IsNumeral word sign digits) :
    ofWord word = .error .limitNotANumber := by
  obtain ⟨sign, signed, split⟩ := exists_sign word
  rw [ofWord]
  refine if_pos ?_
  by_contra proper
  simp only [Bool.or_eq_true, List.isEmpty_iff, Bool.not_eq_true', not_or,
    Bool.not_eq_false, List.all_eq_true] at proper
  exact other sign _ ⟨split, signed, proper.1, proper.2⟩

theorem ofWord_eq_ok_iff (word : List Char) (rows : Nat) :
    ofWord word = .ok rows ↔ Denotes word rows := by
  constructor
  · intro read
    by_cases numeral : ∃ sign digits, IsNumeral word sign digits
    · obtain ⟨sign, digits, numeral⟩ := numeral
      rw [ofWord_of_numeral numeral] at read
      split at read
      next => cases read
      next fits =>
        cases read
        exact ⟨sign, digits, numeral, fun minus => by_contra fun other => fits ⟨minus, other⟩, rfl⟩
    · rw [ofWord_of_other fun sign digits here => numeral ⟨sign, digits, here⟩] at read
      cases read
  · rintro ⟨sign, digits, numeral, fits, rfl⟩
    rw [ofWord_of_numeral numeral, if_neg fun below => below.2 (fits below.1)]

theorem ofWord_eq_error {cause : ParseError.Cause} (refused : ofWord word = .error cause) :
    (IsNegative word ∧ cause = .negativeLimit) ∨
      (¬ IsNegative word ∧ cause = .limitNotANumber) := by
  by_cases numeral : ∃ sign digits, IsNumeral word sign digits
  · obtain ⟨sign, digits, numeral⟩ := numeral
    rw [ofWord_of_numeral numeral] at refused
    split at refused
    next below =>
      cases refused
      obtain ⟨rfl, nonzero⟩ := below
      exact .inl ⟨⟨digits, numeral, nonzero⟩, rfl⟩
    next => cases refused
  · rw [ofWord_of_other fun sign digits here => numeral ⟨sign, digits, here⟩] at refused
    cases refused
    exact .inr ⟨fun ⟨digits, here, _⟩ => numeral ⟨['-'], digits, here⟩, rfl⟩

end Limit
end FleetQuery
