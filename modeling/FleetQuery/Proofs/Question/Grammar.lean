import FleetQuery.Proofs.Question.Phrases
import FleetQuery.Question.Filter

/-!
# The grammar of predicates

A predicate is a label, an operator and a value between quotes, with blanks between them. Labels may
hold the words of an operator, but there is only one way of writing a predicate: its first quote ends
what stands before the value, and of the operators none ends another one. So it does not matter in
which order label ends and operators are tried. Main statements: `Wording.eq_of_chars_eq` and
`ofSpan_by_grammar`.
-/
namespace FleetQuery

namespace Window

/-- Whether the window reads `before` and then `text`, which ends at `stop`. -/
def ReadsTo (window : Window) (before text : List Char) (stop : Nat) : Prop :=
  ∃ rest, window.Reads before (text ++ rest) ∧ stop = before.length + text.length

variable {window : Window} {before chunk text : List Char} {stop : Nat}

/-- What a window reads over a span. -/
theorem exists_readsTo (window : Window) {span : Span} (inside : span.stop ≤ window.stop) :
    ∃ before text, span.start = before.length ∧ window.ReadsTo before text span.stop := by
  have ordered := span.ordered
  obtain ⟨before, rest, start, reads⟩ := window.exists_reads (ordered.trans inside)
  have stop := reads.stop_eq
  refine ⟨before, rest.take span.length, start.symm, rest.drop span.length, ?_, ?_⟩
  · rwa [List.take_append_drop]
  · rw [List.length_take, Span.length]
    omega

theorem ReadsTo.append (reads : window.ReadsTo before (chunk ++ text) stop) :
    window.ReadsTo (before ++ chunk) text stop := by
  obtain ⟨rest, reads, rfl⟩ := reads
  rw [List.append_assoc] at reads
  exact ⟨rest, reads.append, by simp only [List.length_append, Nat.add_assoc]⟩

/-- Blanks are skipped up to the first character that is none, or to the end. -/
theorem ReadsTo.skipBlanks (reads : window.ReadsTo before text stop) :
    window.skipBlanks before.length stop =
      (before ++ text.takeWhile Text.isBlank).length := by
  obtain ⟨rest, reads, rfl⟩ := reads
  have blank : ∀ b ∈ text.takeWhile Text.isBlank, Text.isBlank b = true :=
    fun _ => List.mem_takeWhile_imp
  rw [List.length_append]
  cases left : text.dropWhile Text.isBlank with
  | nil =>
    -- nothing stops the reader before the end, which may lie in front of other text
    have all : text.takeWhile Text.isBlank = text := by
      simpa [left] using List.takeWhile_append_dropWhile (p := Text.isBlank) (l := text)
    rw [all] at blank ⊢
    rw [Window.skipBlanks, firstIn_eq_none, Option.getD_none]
    · omega
    · intro i above below
      obtain ⟨front, b, right, rfl, rfl, here⟩ := reads.chunk_getElem? above below
      rw [← List.length_append, here.blankAt, blank b (by simp)]
      rfl
  | cons c more =>
    have split : text = text.takeWhile Text.isBlank ++ c :: more := by
      rw [← left, List.takeWhile_append_dropWhile]
    have visible : Text.isBlank c = false := by
      have first := List.head?_dropWhile_not Text.isBlank text
      rw [left] at first
      simpa using first
    have length := congrArg List.length split
    rw [List.length_append, List.length_cons] at length
    rw [split, List.append_assoc] at reads
    exact reads.skipBlanks blank visible (by omega)

/-- A blank that text begins with is the first of some. -/
theorem ReadsTo.exists_blanks (reads : window.ReadsTo before text stop)
    (blank : window.blankAt before.length = true) (nonempty : text ≠ []) :
    ∃ blanks more, text = blanks ++ more ∧ blanks ≠ [] ∧ (∀ b ∈ blanks, Text.isBlank b = true) ∧
      window.skipBlanks before.length stop = (before ++ blanks).length := by
  refine ⟨_, _, (List.takeWhile_append_dropWhile (p := Text.isBlank)).symm, ?_,
    fun _ => List.mem_takeWhile_imp, reads.skipBlanks⟩
  obtain ⟨rest, reads, _⟩ := reads
  obtain ⟨c, others, rfl⟩ := List.exists_cons_of_ne_nil nonempty
  have first := Window.Reads.blankAt reads
  rw [blank] at first
  rw [List.takeWhile_cons, if_pos first.symm]
  exact List.cons_ne_nil _ _

/-- Blanks before a visible character are skipped. -/
theorem ReadsTo.skip {blanks : List Char} {c : Char}
    (reads : window.ReadsTo before (blanks ++ c :: text) stop) (nonempty : blanks ≠ [])
    (blank : ∀ b ∈ blanks, Text.isBlank b = true) (visible : Text.isBlank c = false) :
    window.blankAt before.length = true ∧
      window.skipBlanks before.length stop = (before ++ blanks).length := by
  refine ⟨?_, by rw [reads.skipBlanks, takeWhile_blanks blank ⟨c, text, rfl, visible⟩]⟩
  obtain ⟨b, others, rfl⟩ := List.exists_cons_of_ne_nil nonempty
  obtain ⟨rest, reads, _⟩ := reads
  have first := Window.Reads.blankAt reads
  rw [first, blank b List.mem_cons_self]

end Window

namespace Filter

/-- A way of writing a predicate. -/
structure Wording where
  label : List Char
  labelled : label ≠ []
  plain : ∀ c ∈ label, isLabelChar c = true
  /-- The blanks before the operator. -/
  gap : List Char
  apart : gap ≠ []
  gapBlank : ∀ b ∈ gap, Text.isBlank b = true
  operator : FilterOperator
  /-- The operator as it is written. -/
  phrase : List Char
  spelled : phrase.map Char.toLower = operator.phrase.toList
  /-- The blanks before the value. -/
  space : List Char
  spaced : space ≠ []
  spaceBlank : ∀ b ∈ space, Text.isBlank b = true
  value : List Char
  valued : value ≠ []
  unquoted : '"' ∉ value

namespace Wording

/-- What stands before the value. -/
def head (wording : Wording) : List Char :=
  wording.label ++ (wording.gap ++ (wording.phrase ++ wording.space))

def chars (wording : Wording) : List Char :=
  wording.label ++ (wording.gap ++ (wording.phrase ++
    (wording.space ++ '"' :: (wording.value ++ ['"']))))

theorem chars_eq (wording : Wording) :
    wording.chars = wording.head ++ '"' :: (wording.value ++ ['"']) := by
  simp [chars, head]

theorem length_phrase (wording : Wording) :
    wording.phrase.length = wording.operator.phrase.toList.length := by
  rw [← wording.spelled, List.length_map]

theorem place (wording : Wording) (before : List Char) :
    before.length + wording.operator.keyword.length = (before ++ wording.phrase).length := by
  rw [List.length_append, wording.length_phrase]
  rfl

theorem phrase_isTrimmed (wording : Wording) : Text.isTrimmed wording.phrase := by
  rw [← Text.isTrimmed_map_toLower, wording.spelled]
  cases wording.operator <;> decide

theorem head_unquoted (wording : Wording) : '"' ∉ wording.head := by
  have labels : '"' ∉ wording.label := fun member => absurd (wording.plain _ member) (by decide)
  have gaps : '"' ∉ wording.gap := fun member => absurd (wording.gapBlank _ member) (by decide)
  have spaces : '"' ∉ wording.space :=
    fun member => absurd (wording.spaceBlank _ member) (by decide)
  have letters : '"' ∉ wording.phrase := by
    intro member
    have held := List.mem_map_of_mem (f := Char.toLower) member
    rw [wording.spelled] at held
    revert held
    cases wording.operator <;> decide
  simp [head, labels, gaps, letters, spaces]

end Wording

/-- No operator ends another one. -/
theorem eq_of_phrase_ends (first second : FilterOperator)
    (ends : first.phrase.toList <:+ second.phrase.toList) : first = second := by
  revert ends
  cases first <;> cases second <;> decide

namespace Wording

variable {first second : Wording}

/-- The text between the front and the blanks before the value ends visibly. -/
theorem reverse_head (wording : Wording) :
    wording.head.reverse.dropWhile Text.isBlank =
      (wording.label ++ wording.gap ++ wording.phrase).reverse := by
  -- from behind, the blanks before the value come first and then the operator's last letter
  obtain ⟨front, c, ends, visible⟩ := Text.exists_concat_of_isTrimmed wording.phrase_isTrimmed
  have parts : wording.head.reverse = wording.space.reverse ++
      c :: (front.reverse ++ (wording.gap.reverse ++ wording.label.reverse)) := by
    simp [head, ends]
  have spaces : ∀ b ∈ wording.space.reverse, Text.isBlank b = true :=
    fun b member => wording.spaceBlank b (List.mem_reverse.mp member)
  rw [parts, Text.dropWhile_blanks spaces, List.dropWhile_cons, if_neg (by simp [visible])]
  simp [ends]

/-- There is only one way of writing a predicate, but for where the label ends among the blanks before
the operator. -/
theorem eq_of_chars_eq (same : first.chars = second.chars) :
    first.operator = second.operator ∧ first.value = second.value ∧
      first.head = second.head ∧ Text.trimChars first.label = Text.trimChars second.label := by
  -- the first quote parts the value from what stands before it
  obtain ⟨head, value⟩ : first.head = second.head ∧ first.value = second.value := by
    have whole : (first.head ++ '"' :: first.value) ++ ['"'] =
        (second.head ++ '"' :: second.value) ++ ['"'] := by
      simpa [chars_eq] using same
    have cut := (List.append_cons_inj_of_notMem first.head_unquoted first.unquoted).mp
      (List.append_cancel_right whole)
    exact ⟨cut.1, cut.2.2⟩
  have stem : first.label ++ first.gap ++ first.phrase =
      second.label ++ second.gap ++ second.phrase := by
    have ends := congrArg (fun text => text.reverse.dropWhile Text.isBlank) head
    simpa only [reverse_head, List.reverse_inj] using ends
  have lowered := congrArg (List.map Char.toLower) stem
  simp only [List.map_append, spelled] at lowered
  -- of two operators that end a text the one ends the other
  have operator : first.operator = second.operator := by
    rcases List.suffix_or_suffix_of_suffix (List.suffix_append _ first.operator.phrase.toList)
      (lowered ▸ List.suffix_append _ second.operator.phrase.toList) with shorter | longer
    · exact eq_of_phrase_ends _ _ shorter
    · exact (eq_of_phrase_ends _ _ longer).symm
  have size : first.phrase.length = second.phrase.length := by
    rw [length_phrase, length_phrase, operator]
  have labels := (List.append_inj' stem size).1
  refine ⟨operator, value, head, ?_⟩
  rw [← Text.trimChars_append first.gapBlank, labels, Text.trimChars_append second.gapBlank]

end Wording

/-! ### Parts of a predicate -/

section

variable {window : Window} {before text : List Char} {stop : Nat}

/-- A quoted value is what stands between the first and the last character of a text, which are the
only quotes. -/
theorem quotedValue?_eq_some_iff (reads : window.ReadsTo before text stop) {span : Span} :
    quotedValue? window before.length stop = some span ↔
      ∃ value, text = '"' :: (value ++ ['"']) ∧ value ≠ [] ∧ '"' ∉ value ∧
        span = .between (before.length + 1) (before.length + 1 + value.length) := by
  obtain ⟨rest, reads, rfl⟩ := reads
  -- where the text has two ends, its inside is what is cut out
  have inside : ∀ c value d, text = c :: (value ++ [d]) →
      window.hasAt before.length '"' = (c == '"') ∧
        window.hasAt (before.length + text.length - 1) '"' = (d == '"') ∧
        before.length + text.length - 1 = before.length + 1 + value.length ∧
        window.slice (before.length + 1) (before.length + 1 + value.length) = value := by
    rintro c value d rfl
    have opening : window.Reads before (c :: (value ++ d :: rest)) := by simpa using reads
    have start : before.length + 1 = (before ++ [c]).length := by simp
    have last : before.length + (c :: (value ++ [d])).length - 1 =
        (before ++ [c] ++ value).length := by
      simp only [List.length_append, List.length_cons, List.length_nil]
      omega
    refine ⟨opening.hasAt _, ?_, by simp; omega, ?_⟩
    · rw [last, opening.tail.append.hasAt]
    · rw [start, opening.tail.slice]
  rw [quotedValue?]
  constructor
  · intro found
    split at found
    next here =>
      obtain ⟨long, opens, closes, unquoted⟩ := here
      cases found
      -- a text that has no two ends is too short
      cases text with
      | nil =>
        simp only [List.length_nil] at long
        omega
      | cons c tail =>
        rcases List.eq_nil_or_concat tail with rfl | ⟨value, d, rfl⟩
        · simp only [List.length_cons, List.length_nil] at long
          omega
        · rw [List.concat_eq_append] at *
          obtain ⟨first, last, stop, cut⟩ := inside c value d rfl
          rw [first, beq_iff_eq] at opens
          rw [last, beq_iff_eq] at closes
          rw [stop] at unquoted ⊢
          rw [cut] at unquoted
          refine ⟨value, by rw [opens, closes], ?_, unquoted, rfl⟩
          rintro rfl
          simp only [List.length_cons, List.length_append, List.length_nil] at long
          omega
    next => cases found
  · rintro ⟨value, rfl, nonempty, unquoted, rfl⟩
    obtain ⟨first, last, stop, cut⟩ := inside '"' value '"' rfl
    have positive := List.length_pos_of_ne_nil nonempty
    rw [first, last, stop, cut, if_pos]
    refine ⟨?_, rfl, rfl, unquoted⟩
    simp only [List.length_cons, List.length_append, List.length_nil]
    omega

theorem keyword_matchesAt_iff (operator : FilterOperator) {rest : List Char}
    (reads : window.Reads before rest) :
    operator.keyword.matchesAt window before.length = true ↔
      operator.phrase.toList <+: rest.map Char.toLower :=
  Keyword.matchesAt_iff (by cases operator <;> decide) (by cases operator <;> rfl) reads

/-- An operator that ends before the text does is spelled by the text alone. -/
theorem matchesAt_and_lt_iff (reads : window.ReadsTo before text stop) {operator : FilterOperator} :
    operator.keyword.matchesAt window before.length = true ∧
        before.length + operator.keyword.length < stop ↔
      ∃ phrase more, text = phrase ++ more ∧ phrase.map Char.toLower = operator.phrase.toList ∧
        more ≠ [] ∧ before.length + operator.keyword.length = (before ++ phrase).length := by
  obtain ⟨rest, reads, rfl⟩ := reads
  have length : operator.keyword.length = operator.phrase.toList.length := rfl
  rw [keyword_matchesAt_iff operator reads, List.map_append, length]
  constructor
  · rintro ⟨begins, short⟩
    -- the letters are compared beyond the end of the text, but the operator stops short of it
    obtain ⟨tail, whole⟩ := List.prefix_of_prefix_length_le begins
      (List.prefix_append (text.map Char.toLower) _) (by
        rw [List.length_map]
        omega)
    obtain ⟨phrase, more, rfl, spelled, _⟩ := List.map_eq_append_iff.mp whole.symm
    have size : phrase.length = operator.phrase.toList.length := by
      rw [← spelled, List.length_map]
    refine ⟨phrase, more, rfl, spelled, ?_, by rw [List.length_append, size]⟩
    rintro rfl
    rw [List.append_nil] at short
    omega
  · rintro ⟨phrase, more, rfl, spelled, remains, place⟩
    have positive := List.length_pos_of_ne_nil remains
    rw [place]
    refine ⟨?_, by simp only [List.length_append]; omega⟩
    rw [List.map_append, spelled, List.append_assoc]
    exact List.prefix_append _ _

/-- What is taken from a run of positions holds of all of them up to there. -/
theorem mem_takeWhile_range'_iff {property : Nat → Bool} {start count last : Nat} :
    last ∈ (List.range' start count).takeWhile property ↔
      (start ≤ last ∧ last < start + count) ∧
        ∀ i, start ≤ i → i ≤ last → property i = true := by
  induction count generalizing start with
  | zero =>
    simp only [List.range'_zero, List.takeWhile_nil, List.not_mem_nil, false_iff]
    omega
  | succ count ih =>
    rw [List.range'_succ, List.takeWhile_cons]
    split
    next holds =>
      rw [List.mem_cons, ih]
      constructor
      · rintro (rfl | ⟨bounds, later⟩)
        · exact ⟨by omega, fun i above below => Nat.le_antisymm below above ▸ holds⟩
        · refine ⟨by omega, fun i above below => ?_⟩
          rcases Nat.eq_or_lt_of_le above with rfl | above
          · exact holds
          · exact later i above below
      · rintro ⟨bounds, all⟩
        rcases Nat.eq_or_lt_of_le bounds.1 with same | above
        · exact .inl same.symm
        · exact .inr ⟨by omega, fun i above below => all i (by omega) below⟩
    next fails =>
      simp only [List.not_mem_nil, false_iff]
      rintro ⟨bounds, all⟩
      exact fails (all start (Nat.le_refl _) bounds.1)

/-- A label may end wherever it is not empty and something is left, up to the first character that no
label has. -/
theorem mem_labelEnds_iff {span : Span} (start : span.start = before.length)
    (reads : window.ReadsTo before text span.stop) {labelEnd : Nat} :
    labelEnd ∈ labelEnds window span ↔
      ∃ label tail, text = label ++ tail ∧ label ≠ [] ∧ tail ≠ [] ∧
        (∀ c ∈ label, isLabelChar c = true) ∧ labelEnd = (before ++ label).length := by
  obtain ⟨rest, reads, ends⟩ := reads
  rw [labelEnds, mem_takeWhile_range'_iff, Span.length, start, ends]
  constructor
  · rintro ⟨bounds, plain⟩
    have size : (text.take (labelEnd - before.length)).length = labelEnd - before.length := by
      rw [List.length_take]
      omega
    -- the label is what is read so far: each of its characters comes before a place that is taken
    refine ⟨text.take (labelEnd - before.length), text.drop (labelEnd - before.length),
      (List.take_append_drop ..).symm, ?_, ?_, ?_, ?_⟩
    · rw [ne_eq, ← List.length_eq_zero_iff, size]
      omega
    · rw [ne_eq, List.drop_eq_nil_iff]
      omega
    · intro c member
      obtain ⟨left, right, split⟩ := List.append_of_mem member
      have shorter := congrArg List.length split
      rw [size, List.length_append, List.length_cons] at shorter
      have here : window.Reads (before ++ left)
          (c :: (right ++ (text.drop (labelEnd - before.length) ++ rest))) := by
        apply Window.Reads.append
        rw [← List.cons_append, ← List.append_assoc, ← split, ← List.append_assoc,
          List.take_append_drop]
        exact reads
      have label := plain ((before ++ left).length + 1) (by simp) (by
        rw [List.length_append]
        omega)
      rwa [Nat.add_sub_cancel, here.head] at label
    · rw [List.length_append, size]
      omega
  · rintro ⟨label, tail, rfl, labelled, left, plain, rfl⟩
    have positive := List.length_pos_of_ne_nil labelled
    have remains := List.length_pos_of_ne_nil left
    rw [List.length_append, List.length_append]
    refine ⟨by omega, fun i above below => ?_⟩
    rw [List.append_assoc] at reads
    obtain ⟨front, c, right, rfl, place, here⟩ :=
      reads.chunk_getElem? (show before.length ≤ i - 1 by omega) (by omega)
    rw [place, ← List.length_append, here.head]
    exact plain c (by simp)

/-- Where the value stands of a predicate that begins after `before`. -/
def Wording.valueSpan (wording : Wording) (before : List Char) : Span :=
  .between ((before ++ wording.head).length + 1)
    ((before ++ wording.head).length + 1 + wording.value.length)

/-- The label that ends at a place leaves a predicate just if the text is written with it. -/
theorem predicateAt?_eq_some_iff {span : Span} {label tail : List Char} (labelled : label ≠ [])
    (plain : ∀ c ∈ label, isLabelChar c = true) (left : tail ≠ [])
    (reads : window.ReadsTo (before ++ label) tail span.stop) {operator : FilterOperator}
    {predicate : Predicate} :
    predicateAt? window span (before ++ label).length operator = some predicate ↔
      ∃ wording : Wording, wording.chars = label ++ tail ∧ wording.label = label ∧
        wording.operator = operator ∧ predicate =
          ⟨window.trimSpan (.between span.start (before ++ label).length), operator,
            wording.valueSpan before⟩ := by
  rw [predicateAt?]
  constructor
  · intro found
    split at found
    next here =>
      obtain ⟨blank, matched, below, blankAfter⟩ := here
      -- the text is cut at the places that the reader stops at: blanks, operator, blanks, value
      obtain ⟨gap, _, rfl, apart, gapBlank, skipped⟩ := reads.exists_blanks blank left
      rw [skipped] at found matched below blankAfter
      have naming := reads.append
      obtain ⟨phrase, _, rfl, spelled, remains, place⟩ :=
        (matchesAt_and_lt_iff naming).mp ⟨matched, below⟩
      rw [place] at found blankAfter
      have spacing := naming.append
      obtain ⟨space, _, rfl, spaced, spaceBlank, skipped⟩ :=
        spacing.exists_blanks blankAfter remains
      rw [skipped] at found
      obtain ⟨_, quoted, rfl⟩ := Option.map_eq_some_iff.mp found
      obtain ⟨value, rfl, valued, unquoted, rfl⟩ :=
        (quotedValue?_eq_some_iff spacing.append).mp quoted
      refine ⟨⟨label, labelled, plain, gap, apart, gapBlank, operator, phrase, spelled, space,
        spaced, spaceBlank, value, valued, unquoted⟩, rfl, rfl, rfl, ?_⟩
      simp only [Wording.valueSpan, Wording.head, List.append_assoc]
    next => cases found
  · rintro ⟨wording, split, rfl, rfl, rfl⟩
    rw [Wording.chars, List.append_cancel_left_eq] at split
    subst split
    -- the blanks before the operator end at its first letter, those before the value at the quote
    obtain ⟨c, letters, starts, visible⟩ := Text.exists_cons_of_isTrimmed wording.phrase_isTrimmed
    have naming := reads.append
    have spacing := naming.append
    rw [starts, List.cons_append] at reads
    obtain ⟨blank, skipped⟩ := reads.skip wording.apart wording.gapBlank visible
    obtain ⟨matched, below⟩ := (matchesAt_and_lt_iff naming).mpr
      ⟨wording.phrase, _, rfl, wording.spelled, by simp, wording.place _⟩
    obtain ⟨blankAfter, further⟩ := spacing.skip wording.spaced wording.spaceBlank (by decide)
    have quoted := (quotedValue?_eq_some_iff spacing.append).mpr
      ⟨wording.value, rfl, wording.valued, wording.unquoted, rfl⟩
    rw [← wording.place] at blankAfter further
    rw [skipped, if_pos ⟨blank, matched, below, blankAfter⟩, further, quoted, Option.map_some]
    simp only [Wording.valueSpan, Wording.head, List.append_assoc]

/-- The places where a predicate is tried that lead to one are those where a way of writing it has its
label and its operator. -/
theorem predicateAt?_iff_wording {span : Span} (start : span.start = before.length)
    (reads : window.ReadsTo before text span.stop) {labelEnd : Nat} {operator : FilterOperator}
    {predicate : Predicate} :
    labelEnd ∈ labelEnds window span ∧ predicateAt? window span labelEnd operator = some predicate ↔
      ∃ wording : Wording, wording.chars = text ∧
        labelEnd = (before ++ wording.label).length ∧ operator = wording.operator ∧
        predicate = ⟨window.trimSpan (.between before.length (before ++ wording.label).length),
          wording.operator, wording.valueSpan before⟩ := by
  rw [mem_labelEnds_iff start reads]
  constructor
  · rintro ⟨⟨label, tail, rfl, labelled, left, plain, rfl⟩, found⟩
    obtain ⟨wording, split, rfl, rfl, rfl⟩ :=
      (predicateAt?_eq_some_iff labelled plain left reads.append).mp found
    exact ⟨wording, split, rfl, rfl, by rw [start]⟩
  · rintro ⟨wording, rfl, rfl, rfl, rfl⟩
    have left : wording.gap ++ (wording.phrase ++
        (wording.space ++ '"' :: (wording.value ++ ['"']))) ≠ [] := by simp
    refine ⟨⟨wording.label, _, rfl, wording.labelled, left, wording.plain, rfl⟩, ?_⟩
    exact (predicateAt?_eq_some_iff wording.labelled wording.plain left reads.append).mpr
      ⟨wording, rfl, rfl, rfl, by rw [start]⟩

/-- A predicate that is found is written in the text. -/
theorem exists_wording_of_predicate? {span : Span} (start : span.start = before.length)
    (reads : window.ReadsTo before text span.stop) {predicate : Predicate}
    (found : predicate? window span = some predicate) :
    ∃ wording : Wording, wording.chars = text ∧ predicate =
      ⟨window.trimSpan (.between before.length (before ++ wording.label).length),
        wording.operator, wording.valueSpan before⟩ := by
  obtain ⟨labelEnd, member, found⟩ := List.exists_of_findSome?_eq_some found
  obtain ⟨operator, _, found⟩ := List.exists_of_findSome?_eq_some found
  obtain ⟨wording, written, _, _, parts⟩ :=
    (predicateAt?_iff_wording start reads).mp ⟨member, found⟩
  exact ⟨wording, written, parts⟩

/-- Only blanks are trimmed from the label of a trimmed predicate, and only from its end. -/
theorem Wording.exists_trail (wording : Wording)
    (trimmed : Text.trimChars wording.chars = wording.chars) :
    ∃ trail, wording.label = Text.trimChars wording.label ++ trail ∧
      Text.isTrimmed (Text.trimChars wording.label) ∧ ∀ b ∈ trail, Text.isBlank b = true := by
  obtain ⟨c, others, starts⟩ := List.exists_cons_of_ne_nil wording.labelled
  rw [chars, starts] at trimmed
  exact Text.exists_blanks_after starts (Text.head_visible_of_trimChars trimmed)

theorem Wording.trimSpan_label (wording : Wording)
    (reads : window.ReadsTo before wording.chars stop)
    (trimmed : Text.trimChars wording.chars = wording.chars) :
    window.trimSpan (.between before.length (before ++ wording.label).length) =
      .between before.length (before.length + (Text.trimChars wording.label).length) := by
  obtain ⟨rest, reads, _⟩ := reads
  obtain ⟨trail, split, kept, trailing⟩ := wording.exists_trail trimmed
  have whole : window.Reads before ([] ++ (Text.trimChars wording.label ++ (trail ++
      (wording.gap ++ (wording.phrase ++ (wording.space ++ '"' :: (wording.value ++ ['"']))) ++
        rest)))) := by
    rw [List.nil_append, ← List.append_assoc, ← split, ← List.append_assoc]
    exact reads
  have cut := whole.trimSpan (List.forall_mem_nil _) kept trailing
  have size : (before ++ wording.label).length =
      before.length + 0 + (Text.trimChars wording.label).length + trail.length := by
    rw [List.length_append, split, List.length_append]
    simp only [← split]
    omega
  rw [size]
  exact cut

end

/-! ### Trying in any order -/

/-- Attempts that all lead to the same value find it in any order. -/
theorem findSome?_eq_some_of_forall {α β : Type} {attempt : α → Option β} {attempts : List α}
    {value : β} (leads : ∃ one ∈ attempts, attempt one = some value)
    (only : ∀ one ∈ attempts, ∀ other, attempt one = some other → other = value) :
    attempts.findSome? attempt = some value := by
  cases found : attempts.findSome? attempt with
  | none =>
    obtain ⟨one, member, some⟩ := leads
    rw [List.findSome?_eq_none_iff.mp found one member] at some
    cases some
  | some other =>
    obtain ⟨one, member, some⟩ := List.exists_of_findSome?_eq_some found
    rw [only one member other some]

theorem findSome?_product {α β γ : Type} (attempt : α → β → Option γ) (firsts : List α)
    (seconds : List β) :
    (firsts.product seconds).findSome? (fun pair => attempt pair.1 pair.2) =
      firsts.findSome? fun first => seconds.findSome? (attempt first) := by
  induction firsts with
  | nil => rfl
  | cons first rest ih =>
    have split : (first :: rest).product seconds =
        seconds.map (Prod.mk first) ++ rest.product seconds := List.product_cons ..
    rw [split, List.findSome?_append, List.findSome?_map, ih, List.findSome?_cons]
    cases found : seconds.findSome? (attempt first) <;> simp [Function.comp_def, found]

variable (catalog : Catalog) (window : Window) (span : Span)

/-- The predicate that a span spells if label ends and operators are tried in the given order. -/
def predicateBy? (attempts : List (Nat × FilterOperator)) : Option Predicate :=
  attempts.findSome? fun attempt => predicateAt? window span attempt.1 attempt.2

/-- What a span is read as if label ends and operators are tried in the given order. -/
def ofSpanBy (attempts : List (Nat × FilterOperator)) : Except ParseError Filter :=
  ((predicateBy? window span attempts).map (ofPredicate catalog window span)).getD
    (.error (.locate window (.unsupportedPredicate (window.textOf span)) span))

/-- Whether every label end is tried with every operator. -/
def TriesAll (attempts : List (Nat × FilterOperator)) : Prop :=
  ∀ labelEnd operator, (labelEnd, operator) ∈ attempts ↔ labelEnd ∈ labelEnds window span

theorem mem_bySpecificity (operator : FilterOperator) :
    operator ∈ FilterOperator.bySpecificity := by
  cases operator <;> decide

/-- The order of the reader: the shortest label first, and then the most specific operator. -/
def attemptsInOrder : List (Nat × FilterOperator) :=
  (labelEnds window span).product FilterOperator.bySpecificity

theorem triesAll_inOrder : TriesAll window span (attemptsInOrder window span) := by
  intro labelEnd operator
  rw [attemptsInOrder, List.pair_mem_product, and_iff_left (mem_bySpecificity operator)]

theorem ofSpan_eq_inOrder :
    ofSpan catalog window span = ofSpanBy catalog window span (attemptsInOrder window span) := by
  rw [ofSpan, ofSpanBy, predicateBy?, attemptsInOrder, findSome?_product, ← predicate?]
  cases predicate? window span <;> rfl

variable {catalog window span} {before : List Char} {attempts : List (Nat × FilterOperator)}

/-- A text that is written as a predicate is read as that predicate, in whatever order. -/
theorem Wording.predicateBy?_eq_some (wording : Wording) (start : span.start = before.length)
    (reads : window.ReadsTo before wording.chars span.stop)
    (trimmed : Text.trimChars wording.chars = wording.chars)
    (all : TriesAll window span attempts) :
    predicateBy? window span attempts =
      some ⟨.between before.length (before.length + (Text.trimChars wording.label).length),
        wording.operator, wording.valueSpan before⟩ := by
  have label := wording.trimSpan_label reads trimmed
  apply findSome?_eq_some_of_forall
  · obtain ⟨member, found⟩ :=
      (predicateAt?_iff_wording start reads).mpr ⟨wording, rfl, rfl, rfl, rfl⟩
    exact ⟨(_, _), (all _ _).mpr member, by rw [← label]; exact found⟩
  · rintro ⟨labelEnd, operator⟩ member other found
    -- any other way of writing the text has the same parts
    obtain ⟨second, same, rfl, rfl, rfl⟩ :=
      (predicateAt?_iff_wording start reads).mp ⟨(all _ _).mp member, found⟩
    obtain ⟨operator, value, head, trimmedLabel⟩ := eq_of_chars_eq same
    rw [second.trimSpan_label (same ▸ reads) (same ▸ trimmed), trimmedLabel, operator, valueSpan,
      valueSpan, head, value]

/-- A text that is not written as a predicate is none, in whatever order. -/
theorem predicateBy?_eq_none {text : List Char} (start : span.start = before.length)
    (reads : window.ReadsTo before text span.stop)
    (unwritten : ¬ ∃ wording : Wording, wording.chars = text) (all : TriesAll window span attempts) :
    predicateBy? window span attempts = none := by
  rw [predicateBy?, List.findSome?_eq_none_iff]
  rintro ⟨labelEnd, operator⟩ member
  rw [Option.eq_none_iff_forall_ne_some]
  intro predicate found
  obtain ⟨wording, written, _⟩ :=
    (predicateAt?_iff_wording start reads).mp ⟨(all _ _).mp member, found⟩
  exact unwritten ⟨wording, written⟩

/-! ### Reading a predicate -/

/-- The label of a predicate as an error or a filter shows it. -/
def Wording.labelText (wording : Wording) : String := String.ofList (Text.trimChars wording.label)

/-- The texts at the parts of a written predicate. -/
theorem Wording.textOf_parts (wording : Wording) {stop : Nat}
    (reads : window.ReadsTo before wording.chars stop)
    (trimmed : Text.trimChars wording.chars = wording.chars) :
    window.textOf (.between before.length
        (before.length + (Text.trimChars wording.label).length)) = wording.labelText ∧
      window.textOf (wording.valueSpan before) = String.ofList wording.value := by
  obtain ⟨rest, reads, _⟩ := reads
  constructor
  · obtain ⟨trail, split, _⟩ := wording.exists_trail trimmed
    rw [chars, split, List.append_assoc, List.append_assoc] at reads
    exact Window.Spells.textOf ⟨before, _, reads, rfl⟩
  · have quoted : window.Reads (before ++ wording.head ++ ['"'])
        (wording.value ++ '"' :: rest) := by
      apply Window.Reads.append
      apply Window.Reads.append
      simpa [chars_eq] using reads
    exact Window.Spells.textOf ⟨_, _, quoted, by simp [valueSpan, Nat.add_assoc]⟩

/-- What a written predicate is read as. -/
theorem Wording.ofSpanBy_eq (wording : Wording) (start : span.start = before.length)
    (reads : window.ReadsTo before wording.chars span.stop)
    (trimmed : Text.trimChars wording.chars = wording.chars)
    (all : TriesAll window span attempts) :
    ofSpanBy catalog window span attempts = ((catalog.field? wording.labelText).map fun field =>
      ⟨field, wording.labelText, wording.operator, String.ofList wording.value, span⟩).elim
        (.error ⟨.unknownFilterColumn wording.labelText,
          .between span.start (span.start + wording.labelText.length), wording.labelText⟩) .ok := by
  obtain ⟨label, value⟩ := wording.textOf_parts reads trimmed
  have size : wording.labelText.length = (Text.trimChars wording.label).length :=
    String.length_ofList
  rw [ofSpanBy, wording.predicateBy?_eq_some start reads trimmed all, Option.map_some,
    Option.getD_some, ofPredicate, ParseError.locate]
  simp only [label, value, start, size]
  cases catalog.field? wording.labelText <;> rfl

/-- What a text is read as that is not written as a predicate. -/
theorem ofSpanBy_of_unwritten {text : List Char} (start : span.start = before.length)
    (reads : window.ReadsTo before text span.stop)
    (unwritten : ¬ ∃ wording : Wording, wording.chars = text) (all : TriesAll window span attempts) :
    ofSpanBy catalog window span attempts =
      .error (.locate window (.unsupportedPredicate (window.textOf span)) span) := by
  rw [ofSpanBy, predicateBy?_eq_none start reads unwritten all]
  rfl

/-- A predicate is refused as an unsupported clause if and only if it cannot be written as a label, an
operator in any case of its letters and a value between quotes, with blanks between them. However it
is written so, the operator, the value and the label without the blanks around it are the same, and
the predicate is read as a filter with these, or with an error at the label if no field has it. The
order in which label ends and operators are tried does not matter. -/
theorem ofSpan_by_grammar (catalog : Catalog) {window : Window} {span : Span} {text : List Char}
    (spells : window.Spells span text) (trimmed : Text.trimChars text = text) :
    ((∃ error, ofSpan catalog window span = .error error ∧ error.kind = .unsupportedClause) ↔
      ¬ ∃ wording : Wording, wording.chars = text) ∧
    (∀ first second : Wording, first.chars = text → second.chars = text →
      first.operator = second.operator ∧ first.value = second.value ∧
        Text.trimChars first.label = Text.trimChars second.label) ∧
    (∀ wording : Wording, wording.chars = text →
      (∀ field, catalog.field? wording.labelText = some field →
        ofSpan catalog window span = .ok ⟨field, wording.labelText, wording.operator,
          String.ofList wording.value, span⟩) ∧
      (catalog.field? wording.labelText = none →
        ofSpan catalog window span = .error ⟨.unknownFilterColumn wording.labelText,
          .between span.start (span.start + wording.labelText.length), wording.labelText⟩)) ∧
    ∀ attempts, TriesAll window span attempts →
      ofSpanBy catalog window span attempts = ofSpan catalog window span := by
  obtain ⟨before, rest, reads, placed⟩ := spells
  have start : span.start = before.length := by rw [placed, Span.start_between]
  have toStop : window.ReadsTo before text span.stop :=
    ⟨rest, reads, by rw [placed, Span.stop_between_add]⟩
  have inOrder := triesAll_inOrder window span
  rw [ofSpan_eq_inOrder]
  refine ⟨⟨?_, ?_⟩, ?_, ?_, ?_⟩
  · rintro ⟨error, failed, kind⟩ ⟨wording, rfl⟩
    rw [wording.ofSpanBy_eq start toStop trimmed inOrder] at failed
    cases known : catalog.field? wording.labelText <;> rw [known] at failed <;> cases failed
    cases kind
  · intro unwritten
    exact ⟨_, ofSpanBy_of_unwritten start toStop unwritten inOrder, rfl⟩
  · -- the trimmed label is the same, though blanks behind it may count as label or as gap
    intro first second written again
    obtain ⟨operator, value, _, label⟩ := Wording.eq_of_chars_eq (written.trans again.symm)
    exact ⟨operator, value, label⟩
  · rintro wording rfl
    rw [wording.ofSpanBy_eq start toStop trimmed inOrder]
    exact ⟨fun field known => by rw [known]; rfl, fun unknown => by rw [unknown]; rfl⟩
  · intro attempts all
    by_cases written : ∃ wording : Wording, wording.chars = text
    · obtain ⟨wording, rfl⟩ := written
      rw [wording.ofSpanBy_eq start toStop trimmed all,
        wording.ofSpanBy_eq start toStop trimmed inOrder]
    · rw [ofSpanBy_of_unwritten start toStop written all,
        ofSpanBy_of_unwritten start toStop written inOrder]

/-- The words of an operator may stand in a label, here before another operator. -/
theorem ofSpan_by_grammar_sample :
    ofSpan .standard (Window.ofText "does not contain CONTAINS  \"a b\"") (.between 0 32) =
      .error ⟨.unknownFilterColumn "does not contain", .between 0 16, "does not contain"⟩ := by
  have reads : (Window.ofText "does not contain CONTAINS  \"a b\"").chars.toList.take
      (Window.ofText "does not contain CONTAINS  \"a b\"").stop =
        "does not contain CONTAINS  \"a b\"".toList := by decide +kernel
  have spells : (Window.ofText "does not contain CONTAINS  \"a b\"").Spells (.between 0 32)
      "does not contain CONTAINS  \"a b\"".toList :=
    ⟨[], [], by rwa [List.append_nil], by decide +kernel⟩
  obtain ⟨wording, written, shown⟩ : ∃ wording : Wording,
      wording.chars = "does not contain CONTAINS  \"a b\"".toList ∧
      wording.labelText = "does not contain" :=
    ⟨⟨"does not contain".toList, by decide, List.all_eq_true.mp (by decide +kernel), [' '],
      by decide, Text.isBlank_of_mem_space, .contains, "CONTAINS".toList, by decide +kernel,
      [' ', ' '], by decide, List.all_eq_true.mp (by decide +kernel), "a b".toList, by decide,
      by decide⟩, by decide +kernel, by decide +kernel⟩
  have refused := ((ofSpan_by_grammar .standard spells (by decide +kernel)).2.2.1 wording
    written).2 (by rw [shown]; decide +kernel)
  rw [refused, shown]
  decide +kernel

end Filter
end FleetQuery
