import FleetQuery.Proofs.Question.Reads
import FleetQuery.Question.Keyword

/-!
# Keywords in a text

A keyword stands where its letters begin the text that is left, in any ASCII case. A phrase cannot
reach over a character that it does not hold. Main statements: `matchesAt_iff` and
`matchesAt_iff_word`.
-/
namespace FleetQuery

/-- A phrase that begins a text ends before a character that the phrase does not hold. -/
theorem prefix_of_prefix_append_cons {phrase left right : List Char} {c : Char}
    (absent : c ∉ phrase) (begins : phrase <+: left ++ c :: right) : phrase <+: left := by
  induction left generalizing phrase with
  | nil =>
    cases phrase with
    | nil => exact List.nil_prefix
    | cons letter rest =>
      rw [List.nil_append, List.cons_prefix_cons] at begins
      exact absurd begins.1 (fun same => absent (same ▸ List.mem_cons_self))
  | cons d left ih =>
    cases phrase with
    | nil => exact List.nil_prefix
    | cons letter rest =>
      rw [List.cons_append, List.cons_prefix_cons] at begins
      rw [List.cons_prefix_cons]
      exact ⟨begins.1, ih (fun held => absent (List.mem_cons_of_mem _ held)) begins.2⟩

/-- A phrase that does not go on with `letter` after a later space ends at the space, at the latest. -/
theorem prefix_append_space {phrase left rest : List Char} {letter : Char} (nonempty : left ≠ [])
    (single : ¬ [' ', letter] <:+: phrase.tail)
    (begins : phrase <+: left ++ ' ' :: letter :: rest) : phrase <+: left ++ [' '] := by
  -- if the phrase went on behind the space it would hold the space and the letter after it
  have stops : ¬ left ++ [' '] ++ [letter] <+: phrase := by
    rintro ⟨ending, whole⟩
    obtain ⟨c, left, rfl⟩ := List.exists_cons_of_ne_nil nonempty
    apply single
    rw [← whole]
    exact ⟨left, ending, by simp⟩
  have reach : left ++ [' '] ++ [letter] <+: left ++ ' ' :: letter :: rest := ⟨rest, by simp⟩
  rcases List.prefix_or_prefix_of_prefix begins reach with short | long
  · rcases List.prefix_concat_iff.mp short with whole | inside
    · exact absurd (whole ▸ List.prefix_rfl) stops
    · exact inside
  · exact absurd long stops

/-! ### Families of phrases -/

section

variable {α : Type} {phrase : α → List Char} {rest : List Char}

/-- Of phrases none of which begins another, only one begins a text. -/
theorem eq_of_begins (free : ∀ first second, phrase first <+: phrase second → first = second)
    {written other : α} (begins : phrase other <+: phrase written ++ rest) : other = written := by
  -- of two phrases at one place the one begins the other
  rcases List.prefix_or_prefix_of_prefix begins (List.prefix_append _ _) with shorter | longer
  · exact free other written shorter
  · exact (free written other longer).symm

/-- So it is the one that is found there. -/
theorem find?_eq_some_of_begins
    (free : ∀ first second, phrase first <+: phrase second → first = second) {written : α}
    {all : List α} (listed : written ∈ all) {holds : α → Bool}
    (begins : ∀ other, holds other = true ↔ phrase other <+: phrase written ++ rest) :
    all.find? holds = some written := by
  have here : holds written = true := (begins written).mpr (List.prefix_append _ _)
  cases found : all.find? holds with
  | none => exact absurd here (List.find?_eq_none.mp found written listed)
  | some other => rw [eq_of_begins free ((begins other).mp (List.find?_some found))]

end

/-! ### Keywords -/

namespace Keyword

/-- Whether the letters are ASCII characters that no other character lowers to. -/
def isPlain (keyword : Keyword) : Bool :=
  keyword.letters.all fun letter =>
    decide (letter.toNat < 128) && decide (0 < letter.toNat) && letter != 'k'

variable {keyword : Keyword} {window : Window} {before rest : List Char}

theorem spells_iff {letters : List Char}
    (plain : ∀ letter ∈ letters, letter.toNat < 128 ∧ 0 < letter.toNat ∧ letter ≠ 'k')
    (reads : window.Reads before rest) (fits : letters.length ≤ rest.length) :
    spells window.chars before.length letters = true ↔ letters <+: rest.map Char.toLower := by
  induction letters generalizing before rest with
  | nil => simp [spells]
  | cons letter letters ih =>
    cases rest with
    | nil => simp at fits
    | cons c rest =>
      have here := plain letter List.mem_cons_self
      have later := ih (fun other member => plain other (List.mem_cons_of_mem _ member))
        reads.tail (by simpa using fits)
      rw [List.length_append, List.length_singleton] at later
      rw [spells, reads.head, Bool.and_eq_true, later, List.map_cons, List.cons_prefix_cons,
        beq_iff_eq, Text.lowerChar_eq_singleton_iff c letter here.1 here.2.1 here.2.2, eq_comm]

/-- Where a keyword stands, its letters begin the text. -/
theorem matchesAt_iff (plain : keyword.isPlain) (free : keyword.blankAfter = false)
    (reads : window.Reads before rest) :
    keyword.matchesAt window before.length = true ↔
      keyword.letters <+: rest.map Char.toLower := by
  have stop := reads.stop_eq
  have letters : ∀ letter ∈ keyword.letters,
      letter.toNat < 128 ∧ 0 < letter.toNat ∧ letter ≠ 'k' := by
    intro letter member
    simpa [and_assoc] using List.all_eq_true.mp plain letter member
  rw [matchesAt, free]
  simp only [Bool.not_false, Bool.true_or, Bool.and_true, Bool.and_eq_true, decide_eq_true_eq]
  constructor
  · rintro ⟨inside, spelled⟩
    rw [length] at inside
    exact (spells_iff letters reads (by omega)).mp spelled
  · intro begins
    have fits := begins.length_le
    rw [List.length_map] at fits
    rw [length]
    exact ⟨by omega, (spells_iff letters reads fits).mpr begins⟩

/-- Where a phrase that ends with a space stands, a blank comes last. -/
theorem blankAt_of_matchesAt {position : Nat} {letters : List Char} (plain : keyword.isPlain)
    (free : keyword.blankAfter = false) (spaced : keyword.letters = letters ++ [' '])
    (found : keyword.matchesAt window position) :
    window.blankAt (position + letters.length) = true := by
  have inside := le_stop_of_matchesAt found
  obtain ⟨before, rest, rfl, reads⟩ := window.exists_reads (Nat.le_of_add_right_le inside)
  obtain ⟨after, split⟩ := (matchesAt_iff plain free reads).mp found
  rw [spaced, List.append_assoc] at split
  obtain ⟨front, more, rfl, spelled, ends⟩ := List.map_eq_append_iff.mp split.symm
  obtain ⟨c, more, rfl, space, _⟩ := List.map_eq_cons_iff.mp ends
  have size : letters.length = front.length := by rw [← spelled, List.length_map]
  have seen := reads.append.blankAt
  rw [List.length_append, ← size] at seen
  rw [seen, ← Text.isBlank_toLower, space]
  rfl

/-- Where a keyword that has to be a word stands, the text begins with that word. -/
theorem matchesAt_iff_word (plain : keyword.isPlain) (bound : keyword.blankAfter = true)
    (reads : window.Reads before rest) :
    keyword.matchesAt window before.length = true ↔
      ∃ word after, rest = word ++ after ∧ word.map Char.toLower = keyword.letters ∧
        ((after = [] ∧ keyword.endAfter = true) ∨
          ∃ c more, after = c :: more ∧ Text.isBlank c = true) := by
  have free : matchesAt { keyword with blankAfter := false } window before.length = true ↔
      keyword.letters <+: rest.map Char.toLower := matchesAt_iff plain rfl reads
  have stop := reads.stop_eq
  have whole : keyword.matchesAt window before.length = true ↔
      keyword.letters <+: rest.map Char.toLower ∧
        (if keyword.reachesEnd window before.length then keyword.endAfter
          else window.blankAt (before.length + keyword.length)) = true := by
    rw [← free]
    simp only [matchesAt, bound, length, Bool.not_true, Bool.false_or, Bool.not_false, Bool.true_or,
      Bool.and_true, Bool.and_eq_true]
    rfl
  rw [whole]
  constructor
  · rintro ⟨begins, ends⟩
    have fits := begins.length_le
    rw [List.length_map] at fits
    have word : (rest.take keyword.length).map Char.toLower = keyword.letters := by
      rw [List.map_take]
      exact (List.prefix_iff_eq_take.mp begins).symm
    have size : (rest.take keyword.length).length = keyword.length := by
      rw [List.length_take]
      exact Nat.min_eq_left fits
    refine ⟨rest.take keyword.length, rest.drop keyword.length,
      (List.take_append_drop ..).symm, word, ?_⟩
    have after : window.Reads (before ++ rest.take keyword.length) (rest.drop keyword.length) := by
      apply Window.Reads.append
      rw [List.take_append_drop]
      exact reads
    -- the window ends after the word, or a character follows that has to be a blank
    cases left : rest.drop keyword.length with
    | nil =>
      have ending : keyword.reachesEnd window before.length = true := by
        have short := List.drop_eq_nil_iff.mp left
        simp only [reachesEnd, decide_eq_true_eq]
        omega
      rw [ending, if_pos rfl] at ends
      exact .inl ⟨rfl, ends⟩
    | cons c more =>
      have long : keyword.length < rest.length := by
        rw [← Nat.not_le, ← List.drop_eq_nil_iff, left]
        exact List.cons_ne_nil c more
      have going : ¬ keyword.reachesEnd window before.length = true := by
        simp only [reachesEnd, decide_eq_true_eq]
        omega
      rw [left] at after
      have blank := after.blankAt
      rw [List.length_append, size] at blank
      rw [if_neg going, blank] at ends
      exact .inr ⟨c, more, rfl, ends⟩
  · rintro ⟨word, after, rfl, spelled, follows⟩
    have size : word.length = keyword.length := by
      rw [length, ← spelled, List.length_map]
    refine ⟨⟨after.map Char.toLower, by rw [← spelled, List.map_append]⟩, ?_⟩
    rw [List.length_append] at stop
    rcases follows with ⟨rfl, ends⟩ | ⟨c, more, rfl, blank⟩
    · have ending : keyword.reachesEnd window before.length = true := by
        simp only [reachesEnd, decide_eq_true_eq]
        simp only [List.length_nil] at stop
        omega
      rw [if_pos ending, ends]
    · have going : ¬ keyword.reachesEnd window before.length = true := by
        simp only [reachesEnd, decide_eq_true_eq]
        simp only [List.length_cons] at stop
        omega
      have here := reads.append.blankAt
      rw [List.length_append, size] at here
      rw [if_neg going, here, blank]

end Keyword
end FleetQuery
