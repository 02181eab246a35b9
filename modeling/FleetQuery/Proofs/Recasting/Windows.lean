import FleetQuery.Proofs.Question.Reads
import FleetQuery.Proofs.Recasting.Basic

/-!
# Windows that read alike

Two windows read alike if the second shows the characters of the first at later positions and up to
a folding. What a scanner of positions finds in the one it finds in the other. Scanners look past
the end of a window and before its start as well: only blanks stand before the start, and of spans
that reach past the end nothing is said.
-/
namespace FleetQuery

/-! ### Searching moved positions -/

section

variable {p q : Nat → Bool} {start stop count k : Nat}

theorem searchUp_moved (agree : ∀ i, start ≤ i → i < start + count → q (i + k) = p i) :
    searchUp q (start + k) count = (searchUp p start count).map (· + k) := by
  induction count generalizing start with
  | zero => rfl
  | succ count ih =>
    rw [searchUp, searchUp, agree start (Nat.le_refl start) (by omega)]
    split
    next => rfl
    next =>
      rw [Nat.add_right_comm]
      exact ih fun i first last => agree i (by omega) (by omega)

theorem searchDown_moved
    (agree : ∀ i, start ≤ i → i < start + count → q (i + k) = p i) :
    searchDown q (start + k) count = (searchDown p start count).map (· + k) := by
  induction count with
  | zero => rfl
  | succ count ih =>
    rw [searchDown, searchDown, Nat.add_right_comm, agree (start + count) (by omega) (by omega)]
    split
    next => rfl
    next => exact ih fun i first last => agree i first (by omega)

theorem firstIn_moved (agree : ∀ i, start ≤ i → i < stop → q (i + k) = p i) :
    firstIn (start + k) (stop + k) q = (firstIn start stop p).map (· + k) := by
  rw [firstIn, firstIn, Nat.add_sub_add_right]
  exact searchUp_moved fun i first last => agree i first (by omega)

theorem lastIn_moved (agree : ∀ i, start ≤ i → i < stop → q (i + k) = p i) :
    lastIn (start + k) (stop + k) q = (lastIn start stop p).map (· + k) := by
  rw [lastIn, lastIn, Nat.add_sub_add_right]
  exact searchDown_moved fun i first last => agree i first (by omega)

end

theorem searchDown_bounds {property : Nat → Bool} {start count found : Nat}
    (result : searchDown property start count = some found) :
    start ≤ found ∧ found < start + count := by
  induction count with
  | zero => cases result
  | succ count ih =>
    rw [searchDown] at result
    split at result
    · cases result
      omega
    · have := ih result
      omega

theorem lastIn_bounds {start stop found : Nat} {property : Nat → Bool}
    (result : lastIn start stop property = some found) : start ≤ found ∧ found < stop := by
  have := searchDown_bounds result
  omega

namespace Window

/-! ### Spans that a window covers -/

/-- Whether no character of the span lies past the end of the window. -/
def Covers (window : Window) (span : Span) : Prop :=
  span.start = span.stop ∨ span.stop ≤ window.stop

section

variable {window : Window} {span : Span} {start stop : Nat}

theorem covers_between (inside : stop ≤ window.stop) : window.Covers (.between start stop) := by
  simp only [Covers, Span.between]
  omega

/-- Of a span that begins before its end every position lies in the window. -/
theorem Covers.inside (covered : window.Covers span) {position : Nat}
    (above : span.start ≤ position) (below : position < span.stop) : position < window.stop := by
  rcases covered with empty | inside <;> omega

/-- The text of a covered span is empty or ends in the window. -/
theorem Covers.bounded (covered : window.Covers span) :
    span.stop ≤ span.start ∨ span.stop ≤ window.stop :=
  covered.imp (fun empty => Nat.le_of_eq empty.symm) id

theorem skipBlanks_le {position stop : Nat} (ordered : position ≤ stop) :
    window.skipBlanks position stop ≤ stop := by
  rw [skipBlanks]
  cases found : firstIn position stop fun i => !window.blankAt i with
  | none => simp [ordered]
  | some next => exact Nat.le_of_lt (firstIn_bounds found).2

theorem trimSpan_of_le (short : min span.stop window.chars.size ≤ span.start) :
    window.trimSpan span = .between span.start span.start := by
  have nothing : lastIn span.start (min span.stop window.chars.size)
      (fun i => !window.blankAt i) = none :=
    lastIn_eq_none fun i above below => absurd above (by omega)
  simp only [trimSpan, skipBlanks_of_le short, nothing, Option.map_none, Option.getD_none]

theorem trimSpan_of_empty (empty : span.start = span.stop) : window.trimSpan span = span := by
  rw [trimSpan_of_le (by omega)]
  exact Span.eq_of_ends rfl ((Nat.max_self _).trans empty)

/-- What is left of a span ends no later. -/
theorem trimSpan_stop_le (span : Span) : (window.trimSpan span).stop ≤ span.stop := by
  have ordered := span.ordered
  by_cases short : min span.stop window.chars.size ≤ span.start
  · rw [trimSpan_of_le short]
    simp [Span.between, ordered]
  · have skipped : window.skipBlanks span.start (min span.stop window.chars.size) ≤
        min span.stop window.chars.size := skipBlanks_le (by omega)
    simp only [trimSpan, Span.between]
    cases found : lastIn (window.skipBlanks span.start (min span.stop window.chars.size))
      (min span.stop window.chars.size) fun i => !window.blankAt i with
    | none =>
      simp only [Option.map_none, Option.getD_none]
      omega
    | some last =>
      have bounds := lastIn_bounds found
      simp only [Option.map_some, Option.getD_some]
      omega

theorem Covers.trimSpan (covered : window.Covers span) : window.Covers (window.trimSpan span) := by
  rcases covered with empty | inside
  · rw [trimSpan_of_empty empty]
    exact .inl empty
  · exact .inr (Nat.le_trans (trimSpan_stop_le span) inside)

end

/-! ### Windows side by side -/

/-- The right window reads as the left one does, later and up to the folding. -/
structure Alike (recasting : Recasting) (left right : Window) : Prop where
  start : right.start = left.start + recasting.shift
  stop : right.stop = left.stop + recasting.shift
  char : ∀ i < left.stop, (right.chars[i + recasting.shift]?).map recasting.folding.char =
    (left.chars[i]?).map recasting.folding.char
  before : ∀ i < recasting.shift, right.blankAt i = true

namespace Alike

variable {recasting : Recasting} {left right : Window} (alike : Alike recasting left right)
include alike

/-! ### Characters -/

/-- At both positions there is a character, the same one up to the folding. -/
theorem exists_chars {i : Nat} (inside : i < left.stop) : ∃ c d,
    right.chars[i + recasting.shift]? = some c ∧ left.chars[i]? = some d ∧
      recasting.folding.char c = recasting.folding.char d := by
  have same := alike.char i inside
  rw [Array.getElem?_eq_getElem (Nat.lt_of_lt_of_le inside left.stop_le), Option.map_some,
    Option.map_eq_some_iff] at same
  obtain ⟨c, here, folded⟩ := same
  exact ⟨c, _, here, Array.getElem?_eq_getElem _, folded⟩

theorem blankAt {i : Nat} (inside : i < left.stop) :
    right.blankAt (i + recasting.shift) = left.blankAt i := by
  obtain ⟨c, d, here, there, same⟩ := alike.exists_chars inside
  simp only [Window.blankAt, here, there]
  rw [← recasting.folding.isBlank_char, same, recasting.folding.isBlank_char]

theorem hasAt {i : Nat} {c : Char} (inside : i < left.stop)
    (plain : ¬ (97 ≤ c.toNat ∧ c.toNat ≤ 122)) (small : ¬ (65 ≤ c.toNat ∧ c.toNat ≤ 90)) :
    right.hasAt (i + recasting.shift) c = left.hasAt i c := by
  obtain ⟨first, second, here, there, same⟩ := alike.exists_chars inside
  rw [Bool.eq_iff_iff]
  simp only [Window.hasAt, here, there, beq_iff_eq, Option.some.injEq]
  rw [← recasting.folding.char_eq_iff first c plain small, same,
    recasting.folding.char_eq_iff second c plain small]

/-! ### Slices -/

theorem slice_map {start stop : Nat} (covered : stop ≤ start ∨ stop ≤ left.stop) :
    (right.slice (start + recasting.shift) (stop + recasting.shift)).map recasting.folding.char =
      (left.slice start stop).map recasting.folding.char := by
  have sizes := alike.stop
  have leftSize := left.stop_le
  have rightSize := right.stop_le
  apply List.ext_getElem?
  intro i
  simp only [slice, List.getElem?_map, Array.getElem?_toList, Array.getElem?_extract]
  by_cases inside : i < stop - start
  · rw [if_pos (by omega), if_pos (by omega), Nat.add_right_comm]
    exact alike.char (start + i) (by omega)
  · rw [if_neg (by omega), if_neg (by omega)]

/-- What a folding leaves alone is the same of both slices. -/
theorem slice_congr {α : Type} {f : List Char → α}
    (folds : ∀ chars, f (chars.map recasting.folding.char) = f chars) {start stop : Nat}
    (covered : stop ≤ start ∨ stop ≤ left.stop) :
    f (right.slice (start + recasting.shift) (stop + recasting.shift)) =
      f (left.slice start stop) := by
  rw [← folds, alike.slice_map covered, folds]

theorem text_textOf {span : Span} (covered : left.Covers span) :
    recasting.text (right.textOf (recasting.span span)) = recasting.text (left.textOf span) := by
  simp only [Recasting.text, Text.Folding.text, textOf, String.toList_ofList]
  exact congrArg String.ofList (alike.slice_map covered.bounded)

/-! ### Moving -/

theorem jump (position ahead : Nat) :
    right.jump (position + recasting.shift) ahead = left.jump position ahead + recasting.shift := by
  have stop := alike.stop
  simp only [Window.jump]
  omega

theorem jumpTo (position : Nat) :
    right.jumpTo (position + recasting.shift) = left.jumpTo position + recasting.shift := by
  have stop := alike.stop
  simp only [Window.jumpTo]
  omega

theorem skipBlanks {position stop : Nat} (covered : stop ≤ position ∨ stop ≤ left.stop) :
    right.skipBlanks (position + recasting.shift) (stop + recasting.shift) =
      left.skipBlanks position stop + recasting.shift := by
  have found := firstIn_moved (p := fun i => !left.blankAt i) (q := fun i => !right.blankAt i)
    fun i (above : position ≤ i) (below : i < stop) => congrArg not (alike.blankAt (by omega))
  rw [Window.skipBlanks, Window.skipBlanks, found]
  cases firstIn position stop fun i => !left.blankAt i with
  | none => exact Nat.add_max_add_right ..
  | some next => rfl

theorem skipAhead (position : Nat) :
    right.skipAhead (position + recasting.shift) = left.skipAhead position + recasting.shift := by
  rw [Window.skipAhead, Window.skipAhead, alike.stop]
  exact alike.skipBlanks (.inr (Nat.le_refl _))

/-! ### Spans -/

theorem trimSpan {span : Span} (covered : left.Covers span) :
    right.trimSpan (recasting.span span) = recasting.span (left.trimSpan span) := by
  -- a span without characters may lie past the end, and is left as it is
  rcases covered with empty | inside
  · rw [trimSpan_of_empty empty, trimSpan_of_empty]
    simp [Recasting.span, empty]
  · have sizes := alike.stop
    have leftSize : min span.stop left.chars.size = span.stop :=
      Nat.min_eq_left (Nat.le_trans inside left.stop_le)
    have rightSize : min (span.stop + recasting.shift) right.chars.size =
        span.stop + recasting.shift := by
      have := right.stop_le
      omega
    have start : right.skipBlanks (span.start + recasting.shift) (span.stop + recasting.shift) =
        left.skipBlanks span.start span.stop + recasting.shift := alike.skipBlanks (.inr inside)
    have last := lastIn_moved (p := fun i => !left.blankAt i) (q := fun i => !right.blankAt i)
      (k := recasting.shift)
      fun i (above : left.skipBlanks span.start span.stop ≤ i) (below : i < span.stop) =>
        congrArg not (alike.blankAt (by omega))
    simp only [Window.trimSpan, recasting.span_start, recasting.span_stop, leftSize,
      rightSize, start, last]
    rw [recasting.span_between]
    congr 1
    cases lastIn (left.skipBlanks span.start span.stop) span.stop fun i => !left.blankAt i with
    | none => rfl
    | some last => exact Nat.add_right_comm ..

end Alike
end Window

/-! ### Keywords -/

namespace Keyword

variable {recasting : Recasting} {left right : Window} (alike : Window.Alike recasting left right)
include alike

theorem spells_alike (letters : List Char) (position : Nat)
    (fits : position + letters.length ≤ left.stop) :
    spells right.chars (position + recasting.shift) letters =
      spells left.chars position letters := by
  induction letters generalizing position with
  | nil => rfl
  | cons letter rest ih =>
    rw [List.length_cons] at fits
    have inside : position < left.stop := by omega
    have later := ih (position + 1) (by omega)
    rw [Nat.add_right_comm] at later
    rw [spells, spells, later]
    congr 1
    obtain ⟨c, d, here, there, same⟩ := alike.exists_chars inside
    simp only [here, there]
    rw [← recasting.folding.lowerChar_char, same, recasting.folding.lowerChar_char]

theorem matchesAt_alike (keyword : Keyword) (position : Nat) :
    keyword.matchesAt right (position + recasting.shift) = keyword.matchesAt left position := by
  have stop := alike.stop
  have reaches : keyword.reachesEnd right (position + recasting.shift) =
      keyword.reachesEnd left position := by
    simp only [reachesEnd, decide_eq_decide]
    omega
  by_cases fits : position + keyword.length ≤ left.stop
  · have inside : position + recasting.shift + keyword.length ≤ right.stop := by omega
    rw [matchesAt, matchesAt, spells_alike alike keyword.letters position fits, reaches,
      decide_eq_true fits, decide_eq_true inside, Nat.add_right_comm]
    -- the character after the keyword is read where the window goes on
    cases ending : keyword.reachesEnd left position with
    | true => rfl
    | false =>
      simp only [reachesEnd, decide_eq_false_iff_not, Nat.not_le] at ending
      rw [alike.blankAt ending]
  · have outside : ¬ position + recasting.shift + keyword.length ≤ right.stop := by omega
    rw [matchesAt, matchesAt, decide_eq_false fits, decide_eq_false outside]
    rfl

end Keyword
end FleetQuery
