import FleetQuery.Proofs.Question.Phrases
import FleetQuery.Question.Filter

/-!
# Splitting filters

The body of a filter clause is cut at each word `and` between blanks. Text in which no such word
begins is passed over whole. Main statements: `split_chunk` and `split_join`.
-/
namespace FleetQuery.Filter

/-- Whether the text begins with the word `and` and a blank. -/
def OpensJoin (rest : List Char) : Prop :=
  ∃ word c more, rest = word ++ c :: more ∧ word.map Char.toLower = "and".toList ∧
    Text.isBlank c = true

/-- Whether no predicate ends at a blank within `chunk`, before `rest`. -/
def IsUnjoined (chunk rest : List Char) : Prop :=
  ∀ left b right, chunk = left ++ b :: right → Text.isBlank b = true → ¬ OpensJoin (right ++ rest)

variable {window : Window} {before chunk rest : List Char} {pivot stop : Nat}

theorem separator_matchesAt_iff (reads : window.Reads before rest) :
    Keyword.predicateSeparator.matchesAt window before.length = true ↔ OpensJoin rest := by
  rw [Keyword.matchesAt_iff_word (by decide) rfl reads]
  constructor
  · rintro ⟨word, after, rfl, spelled, ⟨_, ends⟩ | ⟨c, more, rfl, blank⟩⟩
    · cases ends
    · exact ⟨word, c, more, rfl, spelled, blank⟩
  · rintro ⟨word, c, more, rfl, spelled, blank⟩
    exact ⟨word, c :: more, rfl, spelled, .inr ⟨c, more, rfl, blank⟩⟩

/-! ### Steps of the split -/

theorem split_visible {c : Char} (reads : window.Reads before (c :: rest))
    (visible : Text.isBlank c = false) (inside : before.length < stop) :
    split window stop pivot before.length = split window stop pivot (before ++ [c]).length := by
  have seen : ¬ window.blankAt before.length = true := by
    rw [reads.blankAt, visible]
    exact Bool.false_ne_true
  rw [split, if_pos inside, if_neg seen, List.length_append]
  rfl

/-- The blanks up to the next word are skipped together, whatever the word is. -/
theorem skip_blanks {b d : Char} {blanks : List Char}
    (reads : window.Reads before (b :: (blanks ++ d :: rest)))
    (blank : ∀ c ∈ b :: blanks, Text.isBlank c = true) (visible : Text.isBlank d = false)
    (inside : (before ++ b :: blanks).length < stop) :
    before.length < stop ∧ window.blankAt before.length = true ∧
      window.skipBlanks (before.length + 1) stop = (before ++ b :: blanks).length := by
  have skipped := reads.tail.skipBlanks (fun c member => blank c (List.mem_cons_of_mem _ member))
    visible (show (before ++ [b]).length + blanks.length < stop by
      simp only [List.length_append, List.length_cons, List.length_nil] at inside ⊢
      omega)
  simp only [List.length_append, List.length_cons, List.length_nil] at inside skipped ⊢
  refine ⟨by omega, ?_, by rw [skipped]; omega⟩
  rw [reads.blankAt]
  exact blank b List.mem_cons_self

theorem split_blanks {b d : Char} {blanks : List Char}
    (reads : window.Reads before (b :: (blanks ++ d :: rest)))
    (blank : ∀ c ∈ b :: blanks, Text.isBlank c = true) (visible : Text.isBlank d = false)
    (inside : (before ++ b :: blanks).length < stop) (goes : ¬ OpensJoin (d :: rest)) :
    split window stop pivot before.length =
      split window stop pivot (before ++ b :: blanks).length := by
  obtain ⟨below, here, skipped⟩ := skip_blanks reads blank visible inside
  have whole : window.Reads before ((b :: blanks) ++ d :: rest) := reads
  have unjoined : ¬ Keyword.predicateSeparator.matchesAt window
      (before ++ b :: blanks).length = true := by
    rw [separator_matchesAt_iff whole.append]
    exact goes
  rw [split, if_pos below, if_pos here]
  simp only [skipped, unjoined, Bool.false_eq_true, and_false, if_false]

/-- The word `and` between spaces ends one predicate and begins another. -/
theorem split_join {d : Char} (reads : window.Reads before (" and ".toList ++ d :: rest))
    (visible : Text.isBlank d = false) (inside : before.length + 5 < stop) :
    split window stop pivot before.length =
      .between pivot before.length ::
        split window stop (before ++ " and ".toList).length
          (before ++ " and ".toList).length := by
  have spaced : window.Reads before (' ' :: ([] ++ 'a' :: ("nd ".toList ++ d :: rest))) := reads
  obtain ⟨below, here, skipped⟩ := skip_blanks spaced Text.isBlank_of_mem_space (by decide)
    (show (before ++ [' ']).length < stop by simp; omega)
  have word : window.Reads (before ++ [' ']) ("and ".toList ++ d :: rest) := spaced.append
  have joined : Keyword.predicateSeparator.matchesAt window (before ++ [' ']).length = true := by
    rw [separator_matchesAt_iff word]
    exact ⟨"and".toList, ' ', d :: rest, rfl, rfl, rfl⟩
  have after : window.Reads before (" and".toList ++ ([' '] ++ d :: rest)) := reads
  have next := after.append.skipBlanks Text.isBlank_of_mem_space visible
    (show (before ++ " and".toList).length + [' '].length < stop by simp; omega)
  have place : (before ++ [' ']).length + Keyword.predicateSeparator.length =
      (before ++ " and".toList).length := by
    simp [Keyword.length, Keyword.predicateSeparator]
  have fits : (before ++ " and".toList).length < stop := by
    simp
    omega
  rw [split, if_pos below, if_pos here]
  simp only [skipped, joined, place, fits, next, and_self, if_true]
  simp

/-! ### Whole predicates -/

/-- Whether the last character of a text, if there is one, is visible. -/
def EndsVisibly (text : List Char) : Prop := ∀ c, text.getLast? = some c → Text.isBlank c = false

/-- The blanks that a text begins with, where it ends visibly. -/
theorem EndsVisibly.exists_visible {text : List Char} (ends : EndsVisibly text)
    (nonempty : text ≠ []) :
    ∃ blanks c more, text = blanks ++ c :: more ∧ (∀ b ∈ blanks, Text.isBlank b = true) ∧
      Text.isBlank c = false := by
  induction text with
  | nil => exact absurd rfl nonempty
  | cons c rest ih =>
    by_cases blank : Text.isBlank c = true
    · cases rest with
      | nil =>
        rw [ends c rfl] at blank
        cases blank
      | cons d rest =>
        obtain ⟨blanks, e, more, split, all, visible⟩ := ih ends (List.cons_ne_nil d rest)
        refine ⟨c :: blanks, e, more, by rw [split]; rfl, ?_, visible⟩
        intro b member
        rcases List.mem_cons.mp member with rfl | later
        · exact blank
        · exact all b later
    · exact ⟨[], c, rest, rfl, by simp, by simpa using blank⟩

/-- What is left of a text that ends visibly ends visibly. -/
theorem EndsVisibly.of_append {left right : List Char} (ends : EndsVisibly (left ++ right)) :
    EndsVisibly right := by
  intro c last
  apply ends
  rw [List.getLast?_append, last]
  rfl

theorem IsUnjoined.append {first second : List Char} (earlier : IsUnjoined first (second ++ rest))
    (later : IsUnjoined second rest) : IsUnjoined (first ++ second) rest := by
  intro left b right split blank
  rcases List.append_eq_append_iff.mp split with ⟨middle, rfl, inner⟩ | ⟨middle, rfl, inner⟩
  · exact later middle b right inner blank
  · cases middle with
    | nil => exact later [] b right (by simpa using inner.symm) blank
    | cons c middle =>
      rw [List.cons_append, List.cons.injEq] at inner
      obtain ⟨rfl, rfl⟩ := inner
      rw [List.append_assoc]
      exact earlier left b middle rfl blank

theorem IsUnjoined.of_append {left right : List Char} (free : IsUnjoined (left ++ right) rest) :
    IsUnjoined right rest := by
  intro front b back split blank
  exact free (left ++ front) b back (by rw [split, List.append_assoc]) blank

/-- Splitting goes through a text in which no predicate ends. -/
theorem split_chunk (reads : window.Reads before (chunk ++ rest))
    (inside : (before ++ chunk).length ≤ stop) (ends : EndsVisibly chunk)
    (free : IsUnjoined chunk rest) :
    split window stop pivot before.length = split window stop pivot (before ++ chunk).length := by
  induction size : chunk.length using Nat.strongRecOn generalizing before chunk with
  | ind size ih =>
    subst size
    cases chunk with
    | nil => rw [List.append_nil]
    | cons c chunk =>
      obtain ⟨blanks, d, more, parts, blank, visible⟩ :=
        ends.exists_visible (List.cons_ne_nil c chunk)
      rw [parts] at reads inside ends free ih ⊢
      -- the blanks before a visible character, and then that character
      have whole : window.Reads before (blanks ++ d :: (more ++ rest)) := by
        rwa [List.append_assoc] at reads
      have next : split window stop pivot before.length =
          split window stop pivot (before ++ blanks).length := by
        cases blanks with
        | nil => rw [List.append_nil]
        | cons b blanks =>
          refine split_blanks whole blank visible ?_ ?_
          · simp only [List.length_append, List.length_cons] at inside ⊢
            omega
          · have last := List.dropLast_append_getLast (List.cons_ne_nil b blanks)
            exact free (b :: blanks).dropLast _ (d :: more)
              ((congrArg (· ++ d :: more) last).symm.trans (List.append_assoc ..))
              (blank _ (List.getLast_mem (List.cons_ne_nil b blanks)))
      have seen : split window stop pivot (before ++ blanks).length =
          split window stop pivot (before ++ blanks ++ [d]).length := by
        apply split_visible whole.append visible
        simp only [List.length_append, List.length_cons] at inside ⊢
        omega
      have later := ih more.length (by simp; omega) whole.append.tail
        (by simpa [Nat.add_assoc] using inside) (by
          have ended : EndsVisibly ((blanks ++ [d]) ++ more) := by simpa using ends
          exact ended.of_append) (by
          have freed : IsUnjoined ((blanks ++ [d]) ++ more) rest := by simpa using free
          exact freed.of_append) rfl
      rw [next, seen, later]
      simp

/-- Dots are taken off the end only. -/
theorem withoutDots_eq {front : List Char} {c : Char}
    (reads : window.Reads before (front ++ [c] ++ rest)) (other : c ≠ '.') :
    withoutDots window (.between before.length (before.length + (front ++ [c]).length)) =
      .between before.length (before.length + (front ++ [c]).length) := by
  have last : window.Reads (before ++ front) (c :: rest) := by
    rw [List.append_assoc] at reads
    exact reads.append
  have found : lastIn before.length (before.length + (front ++ [c]).length)
      (fun i => !window.hasAt i '.') = some (before ++ front).length := by
    apply lastIn_eq_some
    · rw [last.hasAt]
      simpa using other
    · intro i above below
      simp only [List.length_append, List.length_singleton] at above below
      omega
    · simp
    · simp
  rw [withoutDots, Span.start_between, Span.stop_between_add, found, Option.map_some,
    Option.getD_some]
  simp [Nat.add_assoc]

end FleetQuery.Filter
