import FleetQuery.Binary64.Text
import FleetQuery.Proofs.Binary64.Decimals
import Mathlib.Data.List.TakeWhile
import Mathlib.Tactic.Ring

/-!
# Decimal numerals

A numeral in either form, positional or with an exponent, denotes its digits at the place of their
leading digit, and so the digits that are written are read as the same number. Main statements:
`exists_layout` and `read_writeFinite`.
-/
namespace FleetQuery.Binary64

/-! ### Digits and their value -/

theorem digitsValue_append (first second : List Char) : digitsValue (first ++ second) =
    10 ^ second.length * digitsValue first + digitsValue second := by
  change Nat.ofDigitChars 10 (first ++ second) 0 = _
  rw [Nat.ofDigitChars_append, Nat.ofDigitChars_eq_ofDigitChars_zero]
  rfl

theorem digitsValue_zeros (count : Nat) : digitsValue (zeros count) = 0 :=
  Nat.ofDigitChars_replicate_zero.trans (Nat.mul_zero _)

theorem digitsValue_digitsOf (n : Nat) : digitsValue (digitsOf n) = n :=
  Nat.ofDigitChars_ten_toDigits

theorem isDigit_of_mem_digitsOf {n : Nat} : ∀ c ∈ digitsOf n, c.isDigit := fun _ member =>
  Nat.isDigit_of_mem_toDigits (by decide) (by decide) member

theorem isDigit_of_mem_zeros {count : Nat} : ∀ c ∈ zeros count, c.isDigit := by
  intro c member
  rw [List.eq_of_mem_replicate member]
  rfl

/-- The digits of a number are the significant ones and then zeros. -/
theorem exists_digitsOf_eq (n : Nat) :
    ∃ count, digitsOf n = significantDigits n ++ zeros count := by
  have ending : ∀ c ∈ (digitsOf n).reverse.takeWhile (· == '0'), c = '0' := by
    intro c member
    simpa using List.mem_takeWhile_imp member
  refine ⟨((digitsOf n).reverse.takeWhile (· == '0')).length, ?_⟩
  calc digitsOf n
      = ((digitsOf n).reverse.takeWhile (· == '0') ++
          (digitsOf n).reverse.dropWhile (· == '0')).reverse := by
        rw [List.takeWhile_append_dropWhile, List.reverse_reverse]
    _ = significantDigits n ++ ((digitsOf n).reverse.takeWhile (· == '0')).reverse :=
        List.reverse_append
    _ = significantDigits n ++ zeros ((digitsOf n).reverse.takeWhile (· == '0')).length :=
        by
        conv_lhs => rw [List.eq_replicate_of_mem ending, List.reverse_replicate]
        rfl

/-! ### Layouts -/

/-- How a fraction is written: behind a point, and not at all if there is none. -/
def pointed : List Char → List Char
  | [] => []
  | c :: rest => '.' :: c :: rest

theorem pointed_of_ne_nil {fraction : List Char} (nonempty : fraction ≠ []) :
    pointed fraction = '.' :: fraction := by
  obtain ⟨c, rest, rfl⟩ := List.exists_cons_of_ne_nil nonempty
  rfl

/-- Digits laid out around a point, with zeros before and behind them where they are needed. -/
structure Layout (digits : List Char) where
  whole : List Char
  fraction : List Char
  front : Nat
  back : Nat
  padded : whole ++ fraction = zeros front ++ (digits ++ zeros back)
  nonempty : whole ≠ []

namespace Layout

variable {digits : List Char} (layout : Layout digits)

/-- The text of a layout before what is written behind it. -/
def text (tail : List Char) : List Char := layout.whole ++ (pointed layout.fraction ++ tail)

/-- The exponent of the last digit. -/
def place : Int := layout.back - layout.fraction.length

variable (decimal : ∀ c ∈ digits, c.isDigit)

include decimal

theorem isDigit_of_mem : ∀ c ∈ layout.whole ++ layout.fraction, c.isDigit := by
  rw [layout.padded]
  simp only [List.forall_mem_append]
  exact ⟨isDigit_of_mem_zeros, decimal, isDigit_of_mem_zeros⟩

theorem exists_head (tail : List Char) :
    ∃ c rest, layout.text tail = c :: rest ∧ c.isDigit := by
  obtain ⟨c, rest, shown⟩ := List.exists_cons_of_ne_nil layout.nonempty
  refine ⟨c, rest ++ (pointed layout.fraction ++ tail), by rw [text, shown, List.cons_append], ?_⟩
  exact layout.isDigit_of_mem decimal c (by simp [shown])

theorem mem_text {tail : List Char} {c : Char} (member : c ∈ layout.text tail) :
    c.isDigit ∨ c = '.' ∨ c ∈ tail := by
  have digit := layout.isDigit_of_mem decimal c
  cases fraction : layout.fraction <;> simp [text, fraction, pointed] at member digit <;> tauto

end Layout

/-! ### Reading -/

/-- Whether a text without a sign is read as a decimal of this value. -/
def IsNumeralOf (text : List Char) (value : ℚ) : Prop :=
  ∃ decimal : Decimal, decimal.value = value ∧ ∀ negative, readUnsigned negative text =
    some (ofDecimal negative decimal.significand decimal.exponent)

/-- Digits are read up to what is none. -/
theorem spanDigits_append {digits rest : List Char} (decimal : ∀ c ∈ digits, c.isDigit)
    (ends : ∀ c ∈ rest.head?, c.isDigit = false) : spanDigits (digits ++ rest) = (digits, rest) := by
  rw [spanDigits, List.takeWhile_append_of_pos decimal, List.dropWhile_append_of_pos decimal]
  cases rest with
  | nil => simp
  | cons c rest => simp [ends c rfl]

/-- A numeral is read as its digits, with the fraction counted off. -/
theorem readUnsigned_numeral (negative : Bool) {whole fraction tail : List Char} {exponent : Int}
    (nonempty : whole ≠ []) (decimal : ∀ c ∈ whole ++ fraction, c.isDigit)
    (ends : tail = [] ∨ ∃ rest, tail = 'e' :: rest) (reads : readExponent tail = some exponent) :
    readUnsigned negative (whole ++ (pointed fraction ++ tail)) =
      some (ofDecimal negative (digitsValue (whole ++ fraction)) (exponent - fraction.length)) := by
  obtain ⟨integral, fractional⟩ := List.forall_mem_append.mp decimal
  have shown : whole.isEmpty = false := by simpa using nonempty
  have closed : ∀ c ∈ tail.head?, c.isDigit = false := by
    rcases ends with rfl | ⟨rest, rfl⟩ <;> simp
  cases fraction with
  | nil =>
    have spanned : spanFraction tail = ([], tail) := by
      rcases ends with rfl | ⟨rest, rfl⟩ <;> rfl
    rw [pointed, List.nil_append, readUnsigned, spanDigits_append integral closed]
    simp [spanned, reads, shown]
  | cons c rest =>
    have point : ∀ d ∈ (pointed (c :: rest) ++ tail).head?, d.isDigit = false := by simp [pointed]
    have spanned : spanFraction (pointed (c :: rest) ++ tail) = (c :: rest, tail) :=
      spanDigits_append fractional closed
    rw [readUnsigned, spanDigits_append integral point]
    simp [spanned, reads, shown]

/-- Zeros around the digits move the point only. -/
theorem digitsValue_padded (digits : List Char) (front back : Nat) :
    digitsValue (zeros front ++ (digits ++ zeros back)) = 10 ^ back * digitsValue digits := by
  rw [digitsValue_append, digitsValue_append, digitsValue_zeros, digitsValue_zeros, zeros,
    List.length_replicate, Nat.mul_zero, Nat.zero_add, Nat.add_zero]

theorem Layout.isNumeralOf {digits tail : List Char} {exponent : Int} (layout : Layout digits)
    (decimal : ∀ c ∈ digits, c.isDigit) (ends : tail = [] ∨ ∃ rest, tail = 'e' :: rest)
    (reads : readExponent tail = some exponent) :
    IsNumeralOf (layout.text tail) (digitsValue digits * 10 ^ (exponent + layout.place)) := by
  refine ⟨⟨digitsValue (layout.whole ++ layout.fraction), exponent - layout.fraction.length⟩, ?_,
    fun negative => readUnsigned_numeral negative layout.nonempty (layout.isDigit_of_mem decimal)
      ends reads⟩
  have place : exponent + layout.place =
      (layout.back : Int) + (exponent - layout.fraction.length) := by
    rw [Layout.place]
    omega
  simp only [Decimal.value, layout.padded, digitsValue_padded, place]
  rw [zpow_add₀ (by norm_num), zpow_natCast]
  push_cast
  ring

/-! ### Exponents -/

/-- An exponent as it is written behind the digits. -/
def exponentText (exponentDigits : Nat) (leading : Int) : List Char :=
  'e' :: (if leading < 0 then '-' else '+') ::
    (zeros (exponentDigits - (digitsOf leading.natAbs).length) ++ digitsOf leading.natAbs)

theorem exists_exponentText_eq (exponentDigits : Nat) (leading : Int) :
    ∃ sign digits, exponentText exponentDigits leading = 'e' :: sign :: digits ∧
      (sign = '+' ∨ sign = '-') ∧ exponentDigits ≤ digits.length ∧ ∀ c ∈ digits, c.isDigit := by
  refine ⟨_, _, rfl, ?_, ?_,
    List.forall_mem_append.mpr ⟨isDigit_of_mem_zeros, isDigit_of_mem_digitsOf⟩⟩
  · split <;> simp
  · simp only [zeros, List.length_append, List.length_replicate]
    omega

theorem readExponent_exponentText (exponentDigits : Nat) (leading : Int) :
    readExponent (exponentText exponentDigits leading) = some leading := by
  have some : digitsOf leading.natAbs ≠ [] := Nat.toDigits_ne_nil
  have decimal : ∀ c ∈ zeros (exponentDigits - (digitsOf leading.natAbs).length) ++
      digitsOf leading.natAbs, c.isDigit :=
    List.forall_mem_append.mpr ⟨isDigit_of_mem_zeros, isDigit_of_mem_digitsOf⟩
  have size := digitsValue_append (zeros (exponentDigits - (digitsOf leading.natAbs).length))
    (digitsOf leading.natAbs)
  rw [digitsValue_zeros, digitsValue_digitsOf, Nat.mul_zero, Nat.zero_add] at size
  have shown : (zeros (exponentDigits - (digitsOf leading.natAbs).length) ++
      digitsOf leading.natAbs).isEmpty = false := by simp [some]
  rw [exponentText]
  generalize zeros (exponentDigits - (digitsOf leading.natAbs).length) ++
    digitsOf leading.natAbs = digits at decimal size shown
  have all : digits.all Char.isDigit = true := List.all_eq_true.mpr decimal
  split
  next below =>
    simp only [readExponent, splitSign, shown, all, size]
    simp [abs_of_neg below]
  next above =>
    simp only [readExponent, splitSign, shown, all, size]
    simp [abs_of_nonneg (Int.not_lt.mp above)]

/-! ### Both forms -/

/-- The positional form is a layout with nothing behind it. -/
theorem exists_layout_positional {digits : List Char} (nonempty : digits ≠ []) (leading : Int) :
    ∃ layout : Layout digits, positional digits leading = layout.text [] ∧
      layout.place = leading + 1 - digits.length := by
  unfold positional
  dsimp only
  split
  next below =>
    -- zeros stand between the point and the digits
    refine ⟨⟨['0'], zeros (-leading - 1).toNat ++ digits, (-leading - 1).toNat + 1, 0, ?_, ?_⟩,
      ?_, ?_⟩
    · simp [zeros, List.replicate_succ]
    · simp
    · rw [Layout.text, pointed_of_ne_nil (by simp [nonempty])]
      simp
    · simp [Layout.place, zeros]
      omega
  next above =>
    split
    next long =>
      -- zeros stand between the digits and the point
      refine ⟨⟨digits ++ zeros (leading.toNat + 1 - digits.length), ['0'], 0,
        leading.toNat + 1 - digits.length + 1, ?_, ?_⟩, ?_, ?_⟩
      · simp [zeros, List.replicate_succ']
      · simp [nonempty]
      · simp [Layout.text, pointed]
      · simp [Layout.place]
        omega
    next short =>
      -- the point stands between the digits
      refine ⟨⟨digits.take (leading.toNat + 1), digits.drop (leading.toNat + 1), 0, 0, ?_, ?_⟩,
        ?_, ?_⟩
      · simp [zeros]
      · simp [nonempty]
      · rw [Layout.text, pointed_of_ne_nil (by simp; omega)]
        simp
      · simp [Layout.place]
        omega

/-- The form with an exponent is a layout with the exponent behind it. -/
theorem exists_layout_scientific {digits : List Char} (nonempty : digits ≠ [])
    (exponentDigits : Nat) (leading : Int) :
    ∃ layout : Layout digits,
      scientific exponentDigits digits leading = layout.text (exponentText exponentDigits leading) ∧
        leading + layout.place = leading + 1 - digits.length := by
  have some : 0 < digits.length := List.length_pos_iff.mpr nonempty
  refine ⟨⟨digits.take 1, digits.drop 1, 0, 0, ?_, ?_⟩, ?_, ?_⟩
  · rw [List.take_append_drop]
    simp [zeros]
  · simp [nonempty]
  · rw [Layout.text, scientific]
    dsimp only
    cases digits.drop 1 <;> simp [pointed, exponentText]
  · simp [Layout.place]
    omega

/-! ### Written magnitudes -/

section

variable (decimal : Decimal)

theorem isDigit_of_mem_significantDigits (n : Nat) : ∀ c ∈ significantDigits n, c.isDigit := by
  obtain ⟨count, split⟩ := exists_digitsOf_eq n
  have digits := isDigit_of_mem_digitsOf (n := n)
  rw [split] at digits
  exact (List.forall_mem_append.mp digits).1

/-- The significant digits with their point are the decimal. -/
theorem value_significantDigits : decimal.value =
    digitsValue (significantDigits decimal.significand) *
      10 ^ (decimal.leading + 1 - (significantDigits decimal.significand).length) := by
  -- the zeros that are not shown go into the exponent
  obtain ⟨count, split⟩ := exists_digitsOf_eq decimal.significand
  have value : decimal.significand =
      10 ^ count * digitsValue (significantDigits decimal.significand) := by
    have whole := digitsValue_append (significantDigits decimal.significand) (zeros count)
    rwa [← split, digitsValue_digitsOf, digitsValue_zeros, zeros, List.length_replicate,
      Nat.add_zero] at whole
  have length : digitCount decimal.significand =
      (significantDigits decimal.significand).length + count := by
    have whole := congrArg List.length split
    rwa [List.length_append, zeros, List.length_replicate] at whole
  have place : decimal.leading + 1 - (significantDigits decimal.significand).length =
      (count : Int) + decimal.exponent := by
    rw [Decimal.leading, length]
    omega
  rw [place, zpow_add₀ (by norm_num), zpow_natCast, Decimal.value]
  nth_rewrite 1 [value]
  push_cast
  ring

theorem significantDigits_ne_nil (nonzero : decimal.rank ≠ 0) :
    significantDigits decimal.significand ≠ [] := by
  intro none
  have value := value_significantDigits decimal
  rw [none] at value
  have same : decimal.value = (⟨0, 0⟩ : Decimal).value := by
    rw [value]
    simp [digitsValue, Decimal.value]
  exact nonzero ((Decimal.rank_congr same).trans (Decimal.rank_zero 0))

end

/-- Whether the text of a magnitude has an exponent. -/
def HasExponent (style : NumeralStyle) (rank : Nat) : Prop :=
  rank ≠ 0 ∧ ¬ (style.lowest ≤ (shortest style.tie rank).leading ∧
    (shortest style.tie rank).leading ≤ style.highest)

section

variable (style : NumeralStyle) {rank : Nat}

/-- What stands behind the digits of a magnitude: an exponent or nothing. -/
def IsTail (rank : Nat) (tail : List Char) (exponent : Int) : Prop :=
  HasExponent style rank ∧ tail = exponentText style.exponentDigits exponent ∨
    ¬ HasExponent style rank ∧ tail = [] ∧ exponent = 0

/-- The text of a magnitude is a layout of the digits of its shortest decimal. -/
theorem exists_layout_writeMagnitude (nonzero : rank ≠ 0) :
    ∃ (layout : Layout (significantDigits (shortest style.tie rank).significand)) (tail : List Char)
      (exponent : Int), writeMagnitude style rank = layout.text tail ∧
        IsTail style rank tail exponent ∧
        exponent + layout.place = (shortest style.tie rank).leading + 1 -
          (significantDigits (shortest style.tie rank).significand).length := by
  have nonempty : significantDigits (shortest style.tie rank).significand ≠ [] :=
    significantDigits_ne_nil _ (by rwa [rank_shortest])
  rw [writeMagnitude, if_neg nonzero]
  dsimp only
  split
  next inside =>
    obtain ⟨layout, text, place⟩ :=
      exists_layout_positional nonempty (shortest style.tie rank).leading
    exact ⟨layout, [], 0, text, .inr ⟨fun has => has.2 inside, rfl, rfl⟩,
      by rw [Int.zero_add, place]⟩
  next outside =>
    obtain ⟨layout, text, place⟩ := exists_layout_scientific nonempty style.exponentDigits
      (shortest style.tie rank).leading
    exact ⟨layout, _, _, text, .inl ⟨⟨nonzero, outside⟩, rfl⟩, place⟩

/-- The text of any magnitude is a layout of digits. -/
theorem exists_layout (rank : Nat) :
    ∃ (digits : List Char) (layout : Layout digits) (tail : List Char) (exponent : Int),
      (∀ c ∈ digits, c.isDigit) ∧ writeMagnitude style rank = layout.text tail ∧
        IsTail style rank tail exponent := by
  by_cases nonzero : rank = 0
  · subst nonzero
    have text : writeMagnitude style 0 = ['0', '.', '0'] := if_pos rfl
    exact ⟨['0'], ⟨['0'], ['0'], 0, 1, rfl, by simp⟩, [], 0, by simp, text,
      .inr ⟨fun has => has.1 rfl, rfl, rfl⟩⟩
  · obtain ⟨layout, tail, exponent, text, form, _⟩ := exists_layout_writeMagnitude style nonzero
    exact ⟨_, layout, tail, exponent, isDigit_of_mem_significantDigits _, text, form⟩

/-- The text of a magnitude is read as the magnitude. -/
theorem readUnsigned_writeMagnitude (negative : Bool) (rank : Nat) :
    readUnsigned negative (writeMagnitude style rank) = some (ofRank negative rank) := by
  by_cases nonzero : rank = 0
  · subst nonzero
    have text : writeMagnitude style 0 = ['0', '.', '0'] := if_pos rfl
    rw [text]
    cases negative <;> rfl
  · obtain ⟨layout, tail, exponent, text, form, place⟩ := exists_layout_writeMagnitude style nonzero
    -- in either form the digits end at the letter of an exponent or with the text
    have ends : (tail = [] ∨ ∃ rest, tail = 'e' :: rest) ∧ readExponent tail = some exponent := by
      rcases form with ⟨_, rfl⟩ | ⟨_, rfl, rfl⟩
      · exact ⟨.inr ⟨_, rfl⟩, readExponent_exponentText _ _⟩
      · exact ⟨.inl rfl, rfl⟩
    obtain ⟨decimal, value, reads⟩ :=
      layout.isNumeralOf (isDigit_of_mem_significantDigits _) ends.1 ends.2
    rw [place, ← value_significantDigits] at value
    rw [text, reads, ofDecimal_eq_ofRank, Decimal.rank_congr value, rank_shortest]

/-- The text of a finite number is read as the number. -/
theorem read_writeFinite (negative : Bool) (rank : Fin magnitudes) :
    read (writeFinite style negative rank) = some (finite negative rank) := by
  have number : ofRank negative rank = finite negative rank := dif_pos rank.isLt
  have split : splitSign (writeFinite style negative rank) =
      (negative, writeMagnitude style rank) := by
    cases negative with
    | true => rfl
    | false =>
      obtain ⟨digits, layout, tail, _, decimal, text, _⟩ := exists_layout style rank
      obtain ⟨c, rest, shown, digit⟩ := layout.exists_head decimal tail
      rw [writeFinite, text, shown]
      -- a digit is no sign
      unfold splitSign
      split <;> simp_all
  rw [read, split]
  exact number ▸ readUnsigned_writeMagnitude style negative rank

end

end FleetQuery.Binary64
