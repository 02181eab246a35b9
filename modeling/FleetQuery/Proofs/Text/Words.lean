import FleetQuery.Proofs.Text.AsciiCase

/-!
# Trimmed and tidy text

Text without blanks at its ends is what trimming leaves as it is, and text with single spaces between
its words is what squeezing leaves as it is. Neither depends on the case of letters. Squeezed texts
are the same in lower case just if their words are. Main statement: `lower_squeeze_eq_iff`.
-/
namespace FleetQuery.Text

theorem isBlank_of_mem_space : ∀ b ∈ [' '], isBlank b = true :=
  List.forall_mem_singleton.mpr rfl

theorem isBlank_of_all {text : List Char} (solid : text.all fun c => !isBlank c) :
    ∀ c ∈ text, isBlank c = false := by
  intro c member
  simpa using List.all_eq_true.mp solid c member

/-! ### Trimmed text -/

/-- Whether a text is not empty and has no blank at either end. -/
def isTrimmed (text : List Char) : Bool :=
  text.head?.any (fun c => !isBlank c) && text.getLast?.any fun c => !isBlank c

theorem isTrimmed_map_toLower (text : List Char) :
    isTrimmed (text.map Char.toLower) = isTrimmed text := by
  cases first : text.head? <;> cases last : text.getLast? <;>
    simp [isTrimmed, List.head?_map, List.getLast?_map, first, last, isBlank_toLower]

theorem exists_cons_of_isTrimmed {text : List Char} (trimmed : isTrimmed text) :
    ∃ c rest, text = c :: rest ∧ isBlank c = false := by
  cases text with
  | nil => cases trimmed
  | cons c rest =>
    simp only [isTrimmed, List.head?_cons, Option.any_some, Bool.and_eq_true,
      Bool.not_eq_true'] at trimmed
    exact ⟨c, rest, rfl, trimmed.1⟩

theorem exists_concat_of_isTrimmed {text : List Char} (trimmed : isTrimmed text) :
    ∃ front c, text = front ++ [c] ∧ isBlank c = false := by
  cases last : text.getLast? with
  | none => simp [isTrimmed, last] at trimmed
  | some c =>
    obtain ⟨front, rfl⟩ := List.getLast?_eq_some_iff.mp last
    simp only [isTrimmed, last, Option.any_some, Bool.and_eq_true, Bool.not_eq_true'] at trimmed
    exact ⟨front, c, rfl, trimmed.2⟩

theorem isTrimmed_of_ends {text front rest : List Char} {c d : Char} (starts : text = c :: rest)
    (visible : isBlank c = false) (ends : text = front ++ [d]) (closed : isBlank d = false) :
    isTrimmed text := by
  have first : text.head? = some c := by rw [starts, List.head?_cons]
  have last : text.getLast? = some d := by rw [ends, List.getLast?_concat]
  simp [isTrimmed, first, last, visible, closed]

/-- The blanks that a text with a visible character begins with. -/
theorem exists_blanks {chars : List Char} (visible : ∃ c ∈ chars, isBlank c = false) :
    ∃ blanks c rest, chars = blanks ++ c :: rest ∧ (∀ b ∈ blanks, isBlank b = true) ∧
      isBlank c = false := by
  induction chars with
  | nil => simp at visible
  | cons d chars ih =>
    by_cases blank : isBlank d = true
    · obtain ⟨blanks, c, rest, rfl, leading, shown⟩ := ih (by simpa [blank] using visible)
      refine ⟨d :: blanks, c, rest, rfl, ?_, shown⟩
      intro b member
      rcases List.mem_cons.mp member with rfl | later
      · exact blank
      · exact leading b later
    · exact ⟨[], d, chars, rfl, List.forall_mem_nil _, by simpa using blank⟩

/-- A text with a visible character is trimmed text between blanks. -/
theorem exists_trimmed {chars : List Char} (visible : ∃ c ∈ chars, isBlank c = false) :
    ∃ lead text trail, chars = lead ++ (text ++ trail) ∧ (∀ b ∈ lead, isBlank b = true) ∧
      isTrimmed text ∧ ∀ b ∈ trail, isBlank b = true := by
  obtain ⟨lead, c, rest, rfl, leading, first⟩ := exists_blanks visible
  -- the blanks at the end are those that the reversed rest begins with
  have shown : ∃ d ∈ (c :: rest).reverse, isBlank d = false := ⟨c, by simp, first⟩
  obtain ⟨trail, d, front, reversed, trailing, last⟩ := exists_blanks shown
  have whole : c :: rest = (front.reverse ++ [d]) ++ trail.reverse := by
    rw [← List.reverse_reverse (c :: rest), reversed]
    simp
  refine ⟨lead, front.reverse ++ [d], trail.reverse, by rw [whole], leading, ?_, ?_⟩
  · have starts : ∃ more, front.reverse ++ [d] = c :: more := by
      cases begin : front.reverse with
      | nil =>
        rw [begin, List.nil_append, List.singleton_append, List.cons.injEq] at whole
        exact ⟨[], by rw [whole.1]; rfl⟩
      | cons e more =>
        rw [begin, List.cons_append, List.cons_append, List.cons.injEq] at whole
        exact ⟨more ++ [d], by rw [whole.1]; rfl⟩
    obtain ⟨more, starts⟩ := starts
    exact isTrimmed_of_ends starts first rfl last
  · intro b member
    exact trailing b (List.mem_reverse.mp member)

theorem trimChars_of_isTrimmed {text : List Char} (trimmed : isTrimmed text) :
    trimChars text = text := by
  obtain ⟨c, rest, starts, visible⟩ := exists_cons_of_isTrimmed trimmed
  obtain ⟨front, d, ends, closed⟩ := exists_concat_of_isTrimmed trimmed
  have fromStart : text.dropWhile isBlank = text := by simp [starts, visible]
  have fromEnd : text.reverse.dropWhile isBlank = text.reverse := by simp [ends, closed]
  rw [trimChars, fromStart, fromEnd, List.reverse_reverse]

theorem dropWhile_blanks {blanks : List Char} (blank : ∀ b ∈ blanks, isBlank b = true) (rest : List Char) :
    (blanks ++ rest).dropWhile isBlank = rest.dropWhile isBlank := by
  have nothing : blanks.dropWhile isBlank = [] := List.dropWhile_eq_nil_iff.mpr blank
  rw [List.dropWhile_append, nothing, List.isEmpty_nil, if_pos rfl]

/-- Blanks after a text are trimmed away. -/
theorem trimChars_append {text blanks : List Char} (blank : ∀ b ∈ blanks, isBlank b = true) :
    trimChars (text ++ blanks) = trimChars text := by
  have reversed : ∀ b ∈ blanks.reverse, isBlank b = true :=
    fun b member => blank b (List.mem_reverse.mp member)
  rw [trimChars, trimChars, List.dropWhile_append]
  split
  next empty =>
    rw [List.isEmpty_iff.mp empty, List.dropWhile_eq_nil_iff.mpr blank]
  next => rw [List.reverse_append, dropWhile_blanks reversed]

/-- A text that trimming leaves as it is begins visibly. -/
theorem head_visible_of_trimChars {c : Char} {rest : List Char}
    (trimmed : trimChars (c :: rest) = c :: rest) : isBlank c = false := by
  by_contra blank
  rw [Bool.not_eq_false] at blank
  have shorter : (trimChars (c :: rest)).length ≤ rest.length := by
    rw [trimChars, List.dropWhile_cons, if_pos blank, List.length_reverse]
    have front := (List.dropWhile_sublist (l := rest) isBlank).length_le
    have back :=
      (List.dropWhile_sublist (l := (rest.dropWhile isBlank).reverse) isBlank).length_le
    rw [List.length_reverse] at back
    omega
  rw [trimmed, List.length_cons] at shorter
  omega

/-- A text that begins visibly is what trimming leaves of it and blanks. -/
theorem exists_blanks_after {text rest : List Char} {c : Char} (starts : text = c :: rest)
    (visible : isBlank c = false) :
    ∃ trail, text = trimChars text ++ trail ∧ isTrimmed (trimChars text) ∧
      ∀ b ∈ trail, isBlank b = true := by
  have shown : ∃ c ∈ text, isBlank c = false := ⟨c, by simp [starts], visible⟩
  obtain ⟨lead, core, trail, split, leading, trimmed, trailing⟩ := exists_trimmed shown
  have none : lead = [] := by
    cases lead with
    | nil => rfl
    | cons b lead =>
      rw [starts, List.cons_append, List.cons.injEq] at split
      rw [split.1, leading b List.mem_cons_self] at visible
      cases visible
  rw [none, List.nil_append] at split
  have kept : trimChars text = core := by
    rw [split, trimChars_append trailing, trimChars_of_isTrimmed trimmed]
  rw [kept]
  exact ⟨trail, split, trimmed, trailing⟩

theorem trim_of_isTrimmed {text : String} (trimmed : isTrimmed text.toList) : trim text = text := by
  rw [trim, trimChars_of_isTrimmed trimmed, String.ofList_toList]

/-! ### Tidy text -/

/-- Whether every blank after the first character is a space with a visible character after it. -/
def isTidy : List Char → Bool
  | [] => true
  | [c] => !isBlank c
  | c :: d :: rest =>
    (if isBlank c then c == ' ' && !isBlank d else true) && isTidy (d :: rest)

theorem isTidy_of_toLower {text : List Char} (tidy : isTidy (text.map Char.toLower)) :
    isTidy text := by
  induction text with
  | nil => rfl
  | cons c rest ih =>
    cases rest with
    | nil => simpa [isTidy, isBlank_toLower] using tidy
    | cons d rest =>
      simp only [List.map_cons, isTidy, Bool.and_eq_true, isBlank_toLower] at tidy ⊢
      refine ⟨?_, ih tidy.2⟩
      have here := tidy.1
      split at here
      next blank =>
        simp only [Bool.and_eq_true, beq_iff_eq] at here
        rw [if_pos blank, Bool.and_eq_true, beq_iff_eq]
        exact ⟨(toLower_eq_iff c ' ' (by decide) (by decide)).mp here.1, here.2⟩
      next visible => rw [if_neg visible]

/-- The words of tidy text with single spaces between them are the text. -/
theorem intercalate_wordsFrom (word text : List Char) (tidy : isTidy text)
    (started : word ≠ [] ∨ ∃ c rest, text = c :: rest ∧ isBlank c = false) :
    [' '].intercalate (wordsFrom word text) = word.reverse ++ text := by
  induction text generalizing word with
  | nil =>
    rcases started with begun | ⟨c, rest, absent, _⟩
    · simp [wordsFrom, begun]
    · cases absent
  | cons c rest ih =>
    have later : isTidy rest := by
      cases rest with
      | nil => rfl
      | cons d rest =>
        simp only [isTidy, Bool.and_eq_true] at tidy
        exact tidy.2
    rw [wordsFrom]
    by_cases blank : isBlank c = true
    -- a blank ends the word; by tidiness it is a space and another word follows
    · have begun : word ≠ [] := by
        rcases started with begun | ⟨d, others, same, visible⟩
        · exact begun
        · cases same
          rw [blank] at visible
          cases visible
      cases rest with
      | nil => simp [isTidy, blank] at tidy
      | cons d rest =>
        simp only [isTidy, blank, if_true, Bool.and_eq_true, beq_iff_eq, Bool.not_eq_true'] at tidy
        obtain ⟨⟨rfl, visible⟩, _⟩ := tidy
        have next := ih [] later (.inr ⟨d, rest, rfl, visible⟩)
        -- there is a next word, so the space is written back between the two
        have more : wordsFrom [] (d :: rest) ≠ [] := by
          intro none
          rw [none] at next
          cases next
        obtain ⟨head, others, listed⟩ := List.exists_cons_of_ne_nil more
        rw [listed] at next
        simp [blank, begun, listed, next]
    · have next := ih (c :: word) later (.inl (by simp))
      simp [blank, next]

theorem toList_squeeze (text : String) :
    (squeeze text).toList = [' '].intercalate (wordsFrom [] text.toList) := by
  have read : (wordsFrom [] text.toList).map (String.toList ∘ String.ofList) =
      wordsFrom [] text.toList := List.map_id'' (fun _ => String.toList_ofList) _
  rw [squeeze, String.toList_intercalate, words, List.map_map, read]
  rfl

theorem squeeze_of_isTidy {text : String} (tidy : isTidy text.toList)
    (trimmed : isTrimmed text.toList) : squeeze text = text := by
  apply String.toList_inj.mp
  rw [toList_squeeze]
  exact intercalate_wordsFrom [] text.toList tidy (.inr (exists_cons_of_isTrimmed trimmed))

/-! ### Words in lower case -/

/-- A space ends a word for the sigma before it, so a text is lowered on either side of it. -/
theorem reachesCased_append_space (chars rest : List Char) :
    reachesCased (chars ++ ' ' :: rest) = reachesCased chars := by
  have seen : isCaseIgnorable ' ' = false := by decide +kernel
  have bare : isCased ' ' = false := by decide +kernel
  unfold reachesCased
  rw [List.dropWhile_append, List.dropWhile_cons_of_neg (by simp [seen])]
  -- where all of the characters are looked through, the space is reached, which is not cased
  cases chars.dropWhile isCaseIgnorable with
  | nil => exact bare
  | cons c others => rfl

theorem lowerFrom_after_space (before other chars : List Char) :
    lowerFrom (before ++ ' ' :: other) chars = lowerFrom before chars := by
  induction chars generalizing before with
  | nil => rfl
  | cons c rest ih =>
    rw [lowerFrom, lowerFrom, lowerSigma, lowerSigma, reachesCased_append_space,
      ← List.cons_append, ih]

theorem lowerFrom_append_space (before chars rest : List Char) :
    lowerFrom before (chars ++ ' ' :: rest) = lowerFrom before chars ++ ' ' :: lowerChars rest := by
  induction chars generalizing before with
  | nil =>
    -- what stood before the space is out of sight for what comes after it
    have apart : lowerFrom (' ' :: before) rest = lowerFrom [] rest :=
      lowerFrom_after_space [] before rest
    have space : lowerFrom before (' ' :: rest) = ' ' :: lowerFrom (' ' :: before) rest := rfl
    rw [List.nil_append, space, apart]
    rfl
  | cons c chars ih =>
    rw [List.cons_append, lowerFrom, lowerFrom, lowerSigma, lowerSigma, reachesCased_append_space,
      ih, List.append_assoc]

theorem intercalate_cons_cons (first second : List Char) (others : List (List Char)) :
    [' '].intercalate (first :: second :: others) =
      first ++ ' ' :: [' '].intercalate (second :: others) := by
  simp [List.intercalate]

theorem lowerChars_intercalate (words : List (List Char)) :
    lowerChars ([' '].intercalate words) = [' '].intercalate (words.map lowerChars) := by
  induction words with
  | nil => rfl
  | cons word others ih =>
    cases others with
    | nil => simp [List.intercalate]
    | cons next others =>
      rw [intercalate_cons_cons, lowerChars, lowerFrom_append_space, ih]
      exact (intercalate_cons_cons _ _ _).symm

/-- No other character than a space has one in its lower form. -/
theorem space_mem_lowerChar_iff (c : Char) : ' ' ∈ lowerChar c ↔ c = ' ' := by
  by_cases dotted : c.toNat = 0x130
  · -- the dotted capital I alone lowers to two characters
    have pair : lowerChar c = ['i', Char.ofNat 0x307] := by simp [lowerChar, dotted]
    have other : c ≠ ' ' := by
      rintro rfl
      exact absurd dotted (by decide)
    rw [pair, iff_false_right other]
    decide
  · obtain ⟨d, single⟩ : ∃ d, lowerChar c = [d] := by
      unfold lowerChar
      split
      next => exact ⟨_, rfl⟩
      next => split <;> exact ⟨_, rfl⟩
    have space : lowerChar c = [' '] ↔ c = ' ' :=
      (lowerChar_eq_singleton_iff c ' ' (by decide) (by decide) (by decide)).trans
        (toLower_eq_iff c ' ' (by decide) (by decide))
    rw [← space, single]
    simp [eq_comm]

theorem space_mem_lowerFrom_iff (before chars : List Char) :
    ' ' ∈ lowerFrom before chars ↔ ' ' ∈ chars := by
  induction chars generalizing before with
  | nil => rfl
  | cons c rest ih =>
    rw [lowerFrom, List.mem_append, ih, List.mem_cons]
    refine or_congr_left ?_
    split
    next sigma =>
      -- neither form of a sigma is a space
      rw [sigma, lowerSigma]
      split <;> decide
    next => rw [space_mem_lowerChar_iff, eq_comm]

theorem lowerFrom_eq_nil_iff (before chars : List Char) :
    lowerFrom before chars = [] ↔ chars = [] := by
  cases chars with
  | nil => exact iff_of_true rfl rfl
  | cons c rest =>
    have some : (if c = 'Σ' then [lowerSigma before rest] else lowerChar c) ≠ [] := by
      unfold lowerChar
      repeat' split
      all_goals exact List.cons_ne_nil _ _
    simp [lowerFrom, some]

/-- Words are not empty and hold no blank. -/
theorem wordsFrom_solid {word : List Char} (solid : ∀ c ∈ word, isBlank c = false)
    (chars : List Char) :
    ∀ found ∈ wordsFrom word chars, found ≠ [] ∧ ∀ c ∈ found, isBlank c = false := by
  -- a word that has begun is held in reverse until it ends
  have held : word ≠ [] → word.reverse ≠ [] ∧ ∀ c ∈ word.reverse, isBlank c = false :=
    fun begun => ⟨by simpa using begun, fun c member => solid c (List.mem_reverse.mp member)⟩
  induction chars generalizing word with
  | nil =>
    rw [wordsFrom]
    split
    next => exact List.forall_mem_nil _
    next begun => exact List.forall_mem_singleton.mpr (held (by simpa using begun))
  | cons c rest ih =>
    rw [wordsFrom]
    by_cases blank : isBlank c = true
    -- a blank ends the word, if there is one, and the next begins empty
    · have later := ih (List.forall_mem_nil _) (absurd rfl)
      rw [if_pos blank]
      split
      next => exact later
      next begun => exact List.forall_mem_cons.mpr ⟨held (by simpa using begun), later⟩
    · have longer : ∀ d ∈ c :: word, isBlank d = false :=
        List.forall_mem_cons.mpr ⟨by simpa using blank, solid⟩
      rw [if_neg blank]
      exact ih longer fun _ => ⟨by simp, fun d member => longer d (List.mem_reverse.mp member)⟩

/-- Words joined by spaces are taken apart again at the spaces. -/
theorem filter_splitOn_intercalate {words : List (List Char)} (filled : ∀ word ∈ words, word ≠ [])
    (spaceless : ∀ word ∈ words, ' ' ∉ word) :
    (([' '].intercalate words).splitOn ' ').filter (· ≠ []) = words := by
  by_cases none : words = []
  · rw [none]
    rfl
  · rw [List.splitOn_intercalate ' ' spaceless none, List.filter_eq_self]
    simpa using filled

theorem lowered_words_solid (text : String) :
    ∀ word ∈ (wordsFrom [] text.toList).map lowerChars, word ≠ [] ∧ ' ' ∉ word := by
  rw [List.forall_mem_map]
  intro word member
  obtain ⟨filled, solid⟩ := wordsFrom_solid (List.forall_mem_nil _) text.toList word member
  refine ⟨(lowerFrom_eq_nil_iff [] word).not.mpr filled, ?_⟩
  rw [lowerChars, space_mem_lowerFrom_iff]
  intro space
  exact absurd (solid ' ' space) (by decide)

/-- Squeezed texts are the same in lower case just if their words are, one by one. -/
theorem lower_squeeze_eq_iff (left right : String) :
    lower (squeeze left) = lower (squeeze right) ↔
      (words left).map lower = (words right).map lower := by
  have listed : ∀ text : String, (words text).map lower =
      ((wordsFrom [] text.toList).map lowerChars).map String.ofList := by
    intro text
    simp [words, lower, Function.comp_def]
  have joined : ∀ text : String, (lower (squeeze text)).toList =
      [' '].intercalate ((wordsFrom [] text.toList).map lowerChars) := by
    intro text
    rw [toList_lower, toList_squeeze, lowerChars_intercalate]
  have apart : ∀ text : String,
      (([' '].intercalate ((wordsFrom [] text.toList).map lowerChars)).splitOn ' ').filter
        (· ≠ []) = (wordsFrom [] text.toList).map lowerChars := fun text =>
    filter_splitOn_intercalate (fun word member => (lowered_words_solid text word member).1)
      fun word member => (lowered_words_solid text word member).2
  rw [listed, listed, ← String.toList_inj, joined, joined]
  -- lowering comes before joining, so splitting at the spaces gives the lowered words back
  constructor
  · intro same
    rw [← apart left, same, apart right]
  · intro same
    rw [List.map_injective_iff.mpr (fun _ _ => String.ofList_inj.mp) same]

end FleetQuery.Text
