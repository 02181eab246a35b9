import FleetQuery.Proofs.Question.Grammar
import FleetQuery.Proofs.Question.Labels
import FleetQuery.Proofs.Question.Splitting

/-!
# Reading written comparisons

A comparison in writing is a label, an operator and a value between quotes. Neither the label nor the
operator holds a word of the language but for `starts with`, and no clause and no `and` reaches over a
quote, so a comparison stays in one piece if its value does. Main statements: `Comparison.calm`,
`Comparison.isUnjoined` and `Comparison.exists_ofSpan`.
-/
namespace FleetQuery.Written

/-- A predicate whose value is any text that may stand between quotes. -/
structure Comparison where
  label : Label
  operator : FilterOperator
  value : List Char
  nonempty : value ≠ []
  unquoted : '"' ∉ value

namespace Comparison

def chars (comparison : Comparison) : List Char :=
  comparison.label.chars ++ ' ' :: (comparison.operator.phrase.toList ++
    ' ' :: '"' :: (comparison.value ++ ['"']))

/-- A comparison up to the quote. -/
def head (comparison : Comparison) : List Char :=
  comparison.label.chars ++ ' ' :: (comparison.operator.phrase.toList ++ [' '])

/-- The value of a comparison in its quotes. -/
def quoted (comparison : Comparison) : List Char := '"' :: (comparison.value ++ ['"'])

def content (comparison : Comparison) : Field × String × FilterOperator × String :=
  (comparison.label.field, comparison.label.text, comparison.operator,
    String.ofList comparison.value)

theorem chars_eq (comparison : Comparison) :
    comparison.chars = comparison.head ++ comparison.quoted := by
  simp [chars, head, quoted]

end Comparison

/-! ### Labels with operators -/

/-- The labels with their operators, in lower case, up to the quote. -/
def headTexts : List (List Char) :=
  labelTexts.flatMap fun text => FilterOperator.bySpecificity.map fun operator =>
    text ++ ' ' :: (operator.phrase.toList ++ [' '])

theorem map_toLower_phrase (operator : FilterOperator) :
    operator.phrase.toList.map Char.toLower = operator.phrase.toList := by
  cases operator <;> decide

theorem Comparison.lowered_mem (comparison : Comparison) :
    comparison.head.map Char.toLower ∈ headTexts := by
  refine List.mem_flatMap.mpr ⟨_, comparison.label.lowered_mem, ?_⟩
  refine List.mem_map.mpr ⟨comparison.operator, Filter.mem_bySpecificity _, ?_⟩
  simp [Comparison.head, map_toLower_phrase, show Char.toLower ' ' = ' ' from rfl]

/-- A clause begins in no predicate, nor in the word before it, but for `with` after `starts`. No
predicate ends in the label or the operator, whose only blanks are spaces. -/
theorem headTexts_checked : ∀ text ∈ headTexts,
    Clause.isCalmButForStarts [] text ∧ Clause.isCalmButForStarts [] (" and ".toList ++ text) ∧
      ¬ " and".toList <:+: text ∧ text.all fun c => !Text.isBlank c || c == ' ' := by
  decide +kernel

/-! ### Texts between quotes -/

/-- Whether a text stays in one piece between quotes: no clause begins in it, and the word `and` does
not stand between blanks. -/
structure HoldsTogether (text : List Char) : Prop where
  calm : ∀ left right, text = left ++ right → ¬ Clause.Interrupts ('"' :: left) right
  unjoined : ∀ left b right, text = left ++ b :: right → Text.isBlank b = true →
    ¬ Filter.OpensJoin right

/-- Only what stands behind a quote can be the word `starts`. -/
theorem endsWithStarts_quote_iff (before left : List Char) :
    Clause.EndsWithStarts (before ++ '"' :: left) ↔ Clause.EndsWithStarts ('"' :: left) := by
  have absent : ∀ word : List Char, word.map Char.toLower = "starts".toList → '"' ∉ word := by
    intro word spelled member
    have held := List.mem_map_of_mem (f := Char.toLower) member
    rw [spelled] at held
    exact absurd held (by decide)
  constructor
  · rintro ⟨front, word, split, spelled, opens⟩
    rcases List.append_eq_append_iff.mp split with ⟨middle, rfl, inner⟩ | ⟨middle, rfl, rfl⟩
    · cases middle with
      | nil =>
        -- the word would begin with the quote
        rw [List.nil_append] at inner
        exact absurd (inner ▸ List.mem_cons_self) (absent word spelled)
      | cons c middle =>
        rw [List.cons_append, List.cons.injEq] at inner
        obtain ⟨rfl, rfl⟩ := inner
        refine ⟨'"' :: middle, word, rfl, spelled, .inr ?_⟩
        rcases opens with empty | ⟨earlier, b, ends, blank⟩
        · exact absurd (List.append_eq_nil_iff.mp empty).2 (List.cons_ne_nil _ _)
        · have last := congrArg List.getLast? ends
          rw [List.getLast?_append_cons, List.getLast?_concat] at last
          obtain ⟨earlier, split⟩ := List.getLast?_eq_some_iff.mp last
          exact ⟨earlier, b, split, blank⟩
    · exact absurd (by simp) (absent _ spelled)
  · rintro ⟨front, word, split, spelled, opens⟩
    refine ⟨before ++ front, word, by rw [split, List.append_assoc], spelled, .inr ?_⟩
    rcases opens with rfl | ⟨earlier, b, rfl, blank⟩
    · rw [List.nil_append] at split
      exact absurd (split ▸ List.mem_cons_self) (absent word spelled)
    · exact ⟨before ++ earlier, b, by rw [List.append_assoc], blank⟩

/-- A clause begins between quotes as it would anywhere else. -/
theorem interrupts_quoted_iff (before left right rest : List Char) :
    Clause.Interrupts (before ++ '"' :: left) (right ++ '"' :: rest) ↔
      Clause.Interrupts ('"' :: left) right := by
  simp only [Clause.Interrupts, endsWithStarts_quote_iff]
  constructor
  · rintro ⟨clause, begins, uncovered⟩
    exact ⟨clause, Clause.prefix_of_prefix_quote begins, uncovered⟩
  · rintro ⟨clause, begins, uncovered⟩
    refine ⟨clause, begins.trans ?_, uncovered⟩
    rw [List.map_append]
    exact List.prefix_append _ _

/-- The word `and` with the blank after it cannot reach over a quote. -/
theorem opensJoin_before_quote {left right : List Char}
    (opens : Filter.OpensJoin (left ++ '"' :: right)) : Filter.OpensJoin left := by
  obtain ⟨word, c, more, split, spelled, blank⟩ := opens
  have visible : c ≠ '"' := by
    rintro rfl
    cases blank
  -- the quote is neither a letter of the word nor the blank after it
  rcases List.append_eq_append_iff.mp split with ⟨middle, rfl, closes⟩ | ⟨middle, rfl, closes⟩
  · cases middle with
    | nil =>
      rw [List.nil_append, List.cons.injEq] at closes
      exact absurd closes.1.symm visible
    | cons d middle =>
      rw [List.cons_append, List.cons.injEq] at closes
      have held : Char.toLower d ∈ "and".toList := by
        rw [← spelled]
        simp
      rw [← closes.1] at held
      exact absurd held (by decide)
  · cases middle with
    | nil =>
      rw [List.nil_append, List.cons.injEq] at closes
      exact absurd closes.1 visible
    | cons d middle =>
      rw [List.cons_append, List.cons.injEq] at closes
      exact ⟨word, d, middle, rfl, spelled, closes.1 ▸ blank⟩

theorem opensJoin_quoted_iff (right rest : List Char) :
    Filter.OpensJoin (right ++ '"' :: rest) ↔ Filter.OpensJoin right := by
  constructor
  · exact opensJoin_before_quote
  · rintro ⟨word, c, more, rfl, spelled, blank⟩
    exact ⟨word, c, more ++ '"' :: rest, by simp, spelled, blank⟩

/-! ### Comparisons in one piece -/

theorem Comparison.isUnjoined_head (comparison : Comparison) (rest : List Char) :
    Filter.IsUnjoined comparison.head ('"' :: rest) := by
  obtain ⟨_, _, noWord, spaces⟩ := headTexts_checked _ comparison.lowered_mem
  intro left b right split blank opens
  have member : b.toLower ∈ comparison.head.map Char.toLower := by
    rw [split]
    simp
  have space : b.toLower = ' ' := by
    have here := List.all_eq_true.mp spaces _ member
    rwa [Text.isBlank_toLower, blank, Bool.not_true, Bool.false_or, beq_iff_eq] at here
  obtain ⟨word, c, more, rfl, spelled, _⟩ := opensJoin_before_quote opens
  apply noWord
  refine ⟨left.map Char.toLower, (c :: more).map Char.toLower, ?_⟩
  simp [split, space, spelled]

section

variable (comparison : Comparison) (holds : HoldsTogether comparison.value)
  (before rest : List Char)
include holds

theorem Comparison.calm_quoted : Clause.Calm before comparison.quoted rest := by
  have quote : ∀ before rest, Clause.Calm before ['"'] rest :=
    Clause.calm_of_no_space (by decide)
  have value : Clause.Calm (before ++ ['"']) comparison.value ('"' :: rest) := by
    intro left right split _ interrupts
    rw [List.append_assoc] at interrupts
    exact holds.calm left right split ((interrupts_quoted_iff ..).mp interrupts)
  exact (quote before _).append (value.append (quote _ rest))

theorem Comparison.calm : Clause.Calm before comparison.chars rest := by
  rw [comparison.chars_eq]
  refine Clause.Calm.append ?_ (comparison.calm_quoted holds _ rest)
  exact Clause.calm_before_quote_of_starts (headTexts_checked _ comparison.lowered_mem).1 before _

theorem Comparison.calm_joined :
    Clause.Calm before (" and ".toList ++ comparison.chars) rest := by
  rw [comparison.chars_eq, ← List.append_assoc]
  refine Clause.Calm.append ?_ (comparison.calm_quoted holds _ rest)
  refine Clause.calm_before_quote_of_starts ?_ before _
  rw [List.map_append]
  exact (headTexts_checked _ comparison.lowered_mem).2.1

theorem Comparison.isUnjoined_quoted : Filter.IsUnjoined comparison.quoted rest := by
  intro left b right split blank opens
  have visible : b ≠ '"' := by
    rintro rfl
    cases blank
  cases left with
  | nil =>
    rw [quoted, List.nil_append, List.cons.injEq] at split
    exact visible split.1.symm
  | cons c left =>
    rw [quoted, List.cons_append, List.cons.injEq] at split
    -- the blank is in the value, as is the word after it and the blank after the word
    rcases List.append_eq_append_iff.mp split.2 with ⟨middle, _, closes⟩ | ⟨middle, value, closes⟩
    · cases middle with
      | nil =>
        rw [List.nil_append, List.cons.injEq] at closes
        exact visible closes.1.symm
      | cons d middle =>
        rw [List.cons_append, List.cons.injEq] at closes
        exact absurd closes.2.symm (by simp)
    · cases middle with
      | nil =>
        rw [List.nil_append, List.cons.injEq] at closes
        exact visible closes.1
      | cons d middle =>
        rw [List.cons_append, List.cons.injEq] at closes
        obtain ⟨rfl, rfl⟩ := closes
        rw [List.append_assoc] at opens
        exact holds.unjoined left b middle value blank (opensJoin_before_quote opens)

theorem Comparison.isUnjoined : Filter.IsUnjoined comparison.chars rest := by
  rw [comparison.chars_eq]
  exact (comparison.isUnjoined_head _).append (comparison.isUnjoined_quoted holds rest)

end

theorem Comparison.exists_first (comparison : Comparison) :
    ∃ c rest, comparison.chars = c :: rest ∧ Text.isBlank c = false := by
  obtain ⟨c, others, starts, visible⟩ := Text.exists_cons_of_isTrimmed comparison.label.isTrimmed
  refine ⟨c, others ++ ' ' :: (comparison.operator.phrase.toList ++
    ' ' :: '"' :: (comparison.value ++ ['"'])), ?_, visible⟩
  rw [chars, starts, List.cons_append]

theorem Comparison.exists_last (comparison : Comparison) :
    ∃ front, comparison.chars = front ++ ['"'] := by
  refine ⟨comparison.head ++ '"' :: comparison.value, ?_⟩
  simp [comparison.chars_eq, quoted]

theorem Comparison.isTrimmed (comparison : Comparison) : Text.isTrimmed comparison.chars := by
  obtain ⟨c, rest, starts, visible⟩ := comparison.exists_first
  obtain ⟨front, ends⟩ := comparison.exists_last
  exact Text.isTrimmed_of_ends starts visible ends rfl

theorem Comparison.endsVisibly (comparison : Comparison) : Filter.EndsVisibly comparison.chars := by
  obtain ⟨front, c, ends, visible⟩ := Text.exists_concat_of_isTrimmed comparison.isTrimmed
  intro d last
  rw [ends, List.getLast?_concat, Option.some.injEq] at last
  rw [← last]
  exact visible

section

variable {window : Window} {before rest : List Char}

theorem Comparison.split_eq (comparison : Comparison) (holds : HoldsTogether comparison.value)
    {stop pivot : Nat} (reads : window.Reads before (comparison.chars ++ rest))
    (inside : (before ++ comparison.chars).length ≤ stop) :
    Filter.split window stop pivot before.length =
      Filter.split window stop pivot (before ++ comparison.chars).length :=
  Filter.split_chunk reads inside comparison.endsVisibly (comparison.isUnjoined holds rest)

/-! ### Parts of a comparison -/

theorem Comparison.reads_label (comparison : Comparison)
    (reads : window.Reads before (comparison.chars ++ rest)) :
    window.Reads before (comparison.label.chars ++
      (' ' :: (comparison.operator.phrase.toList ++ ' ' :: (comparison.quoted ++ rest)))) := by
  simpa [chars, quoted] using reads

/-- A comparison is written with single spaces between its parts. -/
def Comparison.wording (comparison : Comparison) : Filter.Wording where
  label := comparison.label.chars
  labelled := by
    obtain ⟨c, others, starts, _⟩ := Text.exists_cons_of_isTrimmed comparison.label.isTrimmed
    rw [starts]
    exact List.cons_ne_nil _ _
  plain := comparison.label.isLabelChar
  gap := [' ']
  apart := List.cons_ne_nil _ _
  gapBlank := Text.isBlank_of_mem_space
  operator := comparison.operator
  phrase := comparison.operator.phrase.toList
  spelled := map_toLower_phrase _
  space := [' ']
  spaced := List.cons_ne_nil _ _
  spaceBlank := Text.isBlank_of_mem_space
  value := comparison.value
  valued := comparison.nonempty
  unquoted := comparison.unquoted

theorem Comparison.labelText_wording (comparison : Comparison) :
    comparison.wording.labelText = comparison.label.text :=
  congrArg String.ofList (Text.trimChars_of_isTrimmed comparison.label.isTrimmed)

/-! ### Reading a comparison -/

theorem Comparison.exists_ofSpan (comparison : Comparison) (extra : List (String × String))
    {span : Span} (spells : window.Spells span comparison.chars) :
    ∃ filter, Filter.ofSpan (Catalog.standard.withGroups extra) window span = .ok filter ∧
      filter.content = comparison.content := by
  obtain ⟨before, rest, reads, rfl⟩ := spells
  have stop := Span.stop_between_add before.length comparison.chars.length
  have read : Filter.ofSpanBy (Catalog.standard.withGroups extra) window
      (.between before.length (before.length + comparison.chars.length)) _ = _ :=
    comparison.wording.ofSpanBy_eq (Span.start_between ..) ⟨rest, reads, stop⟩
      (Text.trimChars_of_isTrimmed comparison.isTrimmed) (Filter.triesAll_inOrder window _)
  rw [← Filter.ofSpan_eq_inOrder, comparison.labelText_wording, comparison.label.field?_eq_some]
    at read
  exact ⟨_, read, rfl⟩

end

end FleetQuery.Written
