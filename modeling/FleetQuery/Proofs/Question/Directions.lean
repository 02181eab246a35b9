import FleetQuery.Proofs.Question.Labels
import FleetQuery.Proofs.Question.Phrases

/-!
# Directions of orders

A direction is the last word of the body of an order. No label ends with one, so an order without a
direction is told from one with it. Main statement: `splitDirection_eq`.
-/
namespace FleetQuery.Written

/-! ### Last words -/

section

variable {window : Window} {before rest : List Char}

/-- The last word of a text begins at its start or after a blank. -/
theorem exists_lastWord (text : List Char) :
    ∃ front word, text = front ++ word ∧ (∀ c ∈ word, Text.isBlank c = false) ∧
      (front = [] ∨ ∃ earlier b, front = earlier ++ [b] ∧ Text.isBlank b = true) := by
  induction text with
  | nil => exact ⟨[], [], rfl, fun c member => absurd member List.not_mem_nil, .inl rfl⟩
  | cons c text ih =>
    obtain ⟨front, word, rfl, solid, rfl | ⟨earlier, b, rfl, blank⟩⟩ := ih
    -- the word reaches back to the start; one more character is part of it unless it is a blank
    · by_cases here : Text.isBlank c = true
      · exact ⟨[c], word, rfl, solid, .inr ⟨[], c, rfl, here⟩⟩
      · refine ⟨[], c :: word, rfl, ?_, .inl rfl⟩
        intro d member
        rcases List.mem_cons.mp member with rfl | later
        · exact Bool.eq_false_iff.mpr here
        · exact solid d later
    · exact ⟨c :: (earlier ++ [b]), word, rfl, solid, .inr ⟨c :: earlier, b, rfl, blank⟩⟩

theorem lastWord_eq {front word : List Char} (reads : window.Reads before (front ++ (word ++ rest)))
    (solid : ∀ c ∈ word, Text.isBlank c = false)
    (opens : front = [] ∨ ∃ earlier b, front = earlier ++ [b] ∧ Text.isBlank b = true) :
    OrderBy.lastWord window (.between before.length (before.length + (front ++ word).length)) =
      (before ++ front).length := by
  have visible : ∀ i, (before ++ front).length ≤ i →
      i < (before ++ front).length + word.length → window.blankAt i = false := by
    intro i above below
    obtain ⟨left, c, right, rfl, rfl, here⟩ := reads.append.chunk_getElem? above below
    rw [← List.length_append, here.blankAt]
    exact solid c (by simp)
  have stop : before.length + (front ++ word).length =
      (before ++ front).length + word.length := by
    simp only [List.length_append, Nat.add_assoc]
  rw [OrderBy.lastWord, Span.start_between, Span.stop_between_add, stop]
  rcases opens with rfl | ⟨earlier, b, rfl, blank⟩
  · rw [List.append_nil] at visible ⊢
    rw [lastIn_eq_none visible]
    rfl
  · have whole : window.Reads before (earlier ++ b :: (word ++ rest)) := by
      rw [List.append_assoc] at reads
      exact reads
    have size : (before ++ (earlier ++ [b])).length = (before ++ earlier).length + 1 := by
      rw [← List.append_assoc, List.length_append, List.length_singleton]
    have found : lastIn before.length ((before ++ (earlier ++ [b])).length + word.length)
        window.blankAt = some (before ++ earlier).length := by
      apply lastIn_eq_some
      · rw [whole.append.blankAt]
        exact blank
      · intro i above below
        exact visible i (by omega) below
      · simp
      · omega
    rw [found, Option.map_some, Option.getD_some, size]

/-- Before a space and at the end of the text, a keyword is the whole of a word just if it spells
it. -/
theorem isWord_iff {word : List Char} {keyword : Keyword} (plain : keyword.isPlain)
    (bound : keyword.blankAfter = true) (ends : keyword.endAfter = true)
    (reads : window.Reads before (word ++ rest)) (nonempty : word ≠ [])
    (follows : rest = [] ∨ ∃ more, rest = ' ' :: more) :
    OrderBy.isWord window keyword before.length (before.length + word.length) = true ↔
      word.map Char.toLower = keyword.letters := by
  have positive := List.length_pos_of_ne_nil nonempty
  rw [OrderBy.isWord, Bool.and_eq_true, Bool.and_eq_true, beq_iff_eq, decide_eq_true_eq,
    Keyword.matchesAt_iff_word plain bound reads]
  constructor
  · rintro ⟨⟨_, other, after, split, spelled, _⟩, size⟩
    have length := congrArg List.length spelled
    rw [List.length_map] at length
    rw [Keyword.length] at size
    have same : word = other := (List.append_inj split (by omega)).1
    rw [same, spelled]
  · intro spelled
    have size : keyword.length = word.length := by
      rw [Keyword.length, ← spelled, List.length_map]
    refine ⟨⟨by omega, word, rest, rfl, spelled, ?_⟩, by rw [size]⟩
    rcases follows with rfl | ⟨more, rfl⟩
    · exact .inl ⟨rfl, ends⟩
    · exact .inr ⟨' ', more, rfl, rfl⟩

theorem splitDirection_eq_ite {front word : List Char}
    (reads : window.Reads before (front ++ (word ++ rest)))
    (solid : ∀ c ∈ word, Text.isBlank c = false)
    (opens : front = [] ∨ ∃ earlier b, front = earlier ++ [b] ∧ Text.isBlank b = true)
    (nonempty : word ≠ []) (follows : rest = [] ∨ ∃ more, rest = ' ' :: more) :
    OrderBy.splitDirection window
        (.between before.length (before.length + (front ++ word).length)) =
      if word.map Char.toLower = "desc".toList then
        (window.trimSpan (.between before.length (before ++ front).length), false)
      else if word.map Char.toLower = "asc".toList then
        (window.trimSpan (.between before.length (before ++ front).length), true)
      else (window.trimSpan (.between before.length (before.length + (front ++ word).length)),
        true) := by
  have last := lastWord_eq reads solid opens
  have stop : before.length + (front ++ word).length =
      (before ++ front).length + word.length := by
    simp only [List.length_append, Nat.add_assoc]
  have descending : OrderBy.isWord window .descending (before ++ front).length
      ((before ++ front).length + word.length) = true ↔ word.map Char.toLower = "desc".toList :=
    isWord_iff (by decide) rfl rfl reads.append nonempty follows
  have ascending : OrderBy.isWord window .ascending (before ++ front).length
      ((before ++ front).length + word.length) = true ↔ word.map Char.toLower = "asc".toList :=
    isWord_iff (by decide) rfl rfl reads.append nonempty follows
  unfold OrderBy.splitDirection
  simp only [last, Span.start_between, Span.stop_between_add]
  simp only [stop, descending, ascending]

/-- The direction is told from the label before it. -/
theorem splitDirection_eq (label : Label) (direction : Option Bool)
    (reads : window.Reads before (label.chars ++ directionChars direction ++ rest))
    (follows : rest = [] ∨ ∃ more, rest = ' ' :: more) :
    OrderBy.splitDirection window (.between before.length
        (before.length + (label.chars ++ directionChars direction).length)) =
      (.between before.length (before.length + label.chars.length), direction.getD true) := by
  have labelled : window.Reads before (label.chars ++ (directionChars direction ++ rest)) := by
    rw [← List.append_assoc]
    exact reads
  have whole := labelled.trimSpan_self label.isTrimmed
  cases direction with
  | none =>
    -- the last word is the end of the label, which is not a direction
    obtain ⟨front, word, split, solid, opens⟩ := exists_lastWord label.chars
    obtain ⟨_, d, ends, visible⟩ := Text.exists_concat_of_isTrimmed label.isTrimmed
    have nonempty : word ≠ [] := by
      rintro rfl
      rw [List.append_nil] at split
      rcases opens with rfl | ⟨earlier, b, rfl, blank⟩
      · rw [split] at ends
        exact absurd ends.symm (by simp)
      · rw [split] at ends
        have same := (List.append_inj' ends rfl).2
        rw [List.cons.injEq] at same
        rw [same.1, visible] at blank
        cases blank
    have ended : word.map Char.toLower <:+ label.chars.map Char.toLower := by
      rw [split, List.map_append]
      exact List.suffix_append _ _
    have unlike : ∀ name, ¬ name <:+ label.chars.map Char.toLower →
        ¬ word.map Char.toLower = name := by
      rintro name absent rfl
      exact absent ended
    have read : window.Reads before (front ++ (word ++ rest)) := by
      rw [← List.append_assoc, ← split]
      exact labelled
    have cut := splitDirection_eq_ite read solid opens nonempty follows
    rw [if_neg (unlike _ label.not_direction.2), if_neg (unlike _ label.not_direction.1), ← split,
      whole] at cut
    rw [directionChars, List.append_nil]
    exact cut
  | some ascending =>
    -- the direction is the last word, and the space before it is trimmed away
    have spaced : window.Reads before ([] ++ (label.chars ++ ([' '] ++
        ((OrderBy.directionName ascending).toList ++ rest)))) := labelled
    have cut := spaced.trimSpan (List.forall_mem_nil _) label.isTrimmed Text.isBlank_of_mem_space
    have read : window.Reads before ((label.chars ++ [' ']) ++
        ((OrderBy.directionName ascending).toList ++ rest)) := by
      rw [List.append_assoc]
      exact spaced
    have solid : ∀ c ∈ (OrderBy.directionName ascending).toList, Text.isBlank c = false :=
      Text.isBlank_of_all (by cases ascending <;> decide)
    have nonempty : (OrderBy.directionName ascending).toList ≠ [] := by
      cases ascending <;> decide
    have place : (before ++ (label.chars ++ [' '])).length =
        before.length + label.chars.length + 1 := by
      simp only [List.length_append, List.length_singleton]
      omega
    have split := splitDirection_eq_ite read solid (.inr ⟨_, _, rfl, rfl⟩) nonempty follows
    rw [List.append_assoc, place] at split
    have chosen : window.trimSpan
        (.between before.length (before.length + label.chars.length + 1)) =
      .between before.length (before.length + label.chars.length) := cut
    rw [directionChars]
    cases ascending
    · exact split.trans (by rw [if_pos (by decide), chosen]; rfl)
    · exact split.trans (by rw [if_neg (by decide), if_pos (by decide), chosen]; rfl)

end
end FleetQuery.Written
