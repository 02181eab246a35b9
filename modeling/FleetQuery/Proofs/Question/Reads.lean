import FleetQuery.Proofs.Text.Words
import FleetQuery.Question.Window
import Mathlib.Data.List.Forall2

/-!
# What a window reads

A window is at a position with some text before it and some text after it, up to its end. What the
reader sees from there on is said of these two lists of characters instead of positions.
-/
namespace FleetQuery

/-! ### Searching positions -/

theorem searchUp_eq_some {property : Nat → Bool} {start count found : Nat}
    (holds : property found = true) (fails : ∀ i, start ≤ i → i < found → property i = false)
    (above : start ≤ found) (below : found < start + count) :
    searchUp property start count = some found := by
  induction count generalizing start with
  | zero => omega
  | succ count ih =>
    rw [searchUp]
    by_cases here : found = start
    · rw [← here, if_pos holds]
    · have later := fails start (Nat.le_refl start) (by omega)
      rw [later, if_neg Bool.false_ne_true]
      exact ih (fun i first last => fails i (by omega) last) (by omega) (by omega)

theorem searchUp_eq_none {property : Nat → Bool} {start count : Nat}
    (fails : ∀ i, start ≤ i → i < start + count → property i = false) :
    searchUp property start count = none := by
  induction count generalizing start with
  | zero => rfl
  | succ count ih =>
    rw [searchUp, fails start (Nat.le_refl start) (by omega), if_neg Bool.false_ne_true]
    exact ih fun i first last => fails i (by omega) (by omega)

theorem searchDown_eq_some {property : Nat → Bool} {start count found : Nat}
    (holds : property found = true)
    (fails : ∀ i, found < i → i < start + count → property i = false)
    (above : start ≤ found) (below : found < start + count) :
    searchDown property start count = some found := by
  induction count with
  | zero => omega
  | succ count ih =>
    rw [searchDown]
    by_cases here : found = start + count
    · rw [← here, if_pos holds]
    · rw [fails (start + count) (by omega) (by omega), if_neg Bool.false_ne_true]
      exact ih (fun i first last => fails i first (by omega)) (by omega)

theorem searchDown_eq_none {property : Nat → Bool} {start count : Nat}
    (fails : ∀ i, start ≤ i → i < start + count → property i = false) :
    searchDown property start count = none := by
  induction count with
  | zero => rfl
  | succ count ih =>
    rw [searchDown, fails (start + count) (by omega) (by omega), if_neg Bool.false_ne_true]
    exact ih fun i first last => fails i first (by omega)

/-- The first position with a property. -/
theorem firstIn_eq_some {start stop found : Nat} {property : Nat → Bool}
    (holds : property found = true) (fails : ∀ i, start ≤ i → i < found → property i = false)
    (above : start ≤ found) (below : found < stop) : firstIn start stop property = some found :=
  searchUp_eq_some holds fails above (by omega)

theorem firstIn_eq_none {start stop : Nat} {property : Nat → Bool}
    (fails : ∀ i, start ≤ i → i < stop → property i = false) :
    firstIn start stop property = none :=
  searchUp_eq_none fun i first last => fails i first (by omega)

theorem searchUp_isSome {property : Nat → Bool} {start count position : Nat}
    (holds : property position = true) (above : start ≤ position)
    (below : position < start + count) : (searchUp property start count).isSome := by
  induction count generalizing start with
  | zero => omega
  | succ count ih =>
    rw [searchUp]
    split
    next => rfl
    next fails =>
      have later : start ≠ position := by
        rintro rfl
        exact fails holds
      exact ih (by omega) (by omega)

theorem firstIn_isSome {start stop position : Nat} {property : Nat → Bool}
    (holds : property position = true) (above : start ≤ position) (below : position < stop) :
    (firstIn start stop property).isSome :=
  searchUp_isSome holds above (by omega)

/-- The last position with a property. -/
theorem lastIn_eq_some {start stop found : Nat} {property : Nat → Bool}
    (holds : property found = true) (fails : ∀ i, found < i → i < stop → property i = false)
    (above : start ≤ found) (below : found < stop) : lastIn start stop property = some found :=
  searchDown_eq_some holds (fun i first last => fails i first (by omega)) above (by omega)

theorem lastIn_eq_none {start stop : Nat} {property : Nat → Bool}
    (fails : ∀ i, start ≤ i → i < stop → property i = false) :
    lastIn start stop property = none :=
  searchDown_eq_none fun i first last => fails i first (by omega)

namespace Span

theorem start_between (start stop : Nat) : (between start stop).start = start := rfl

theorem stop_between_add (start length : Nat) :
    (between start (start + length)).stop = start + length :=
  Nat.max_eq_right (Nat.le_add_right start length)

end Span

namespace Window

/-! ### Characters -/

/-- The window reads `before` and then `rest`, up to its end. -/
def Reads (window : Window) (before rest : List Char) : Prop :=
  window.chars.toList.take window.stop = before ++ rest

section

variable {window : Window} {before chunk rest : List Char} {c : Char}

theorem Reads.append (reads : window.Reads before (chunk ++ rest)) :
    window.Reads (before ++ chunk) rest := by
  rw [Reads, List.append_assoc]
  exact reads

theorem Reads.tail (reads : window.Reads before (c :: rest)) :
    window.Reads (before ++ [c]) rest := by
  have whole : window.Reads before ([c] ++ rest) := reads
  exact whole.append

theorem Reads.stop_eq (reads : window.Reads before rest) :
    window.stop = before.length + rest.length := by
  have lengths := congrArg List.length reads
  have inside := window.stop_le
  simp only [List.length_take, Array.length_toList, List.length_append] at lengths
  omega

theorem Reads.getElem? (reads : window.Reads before rest) {position : Nat}
    (inside : position < window.stop) : window.chars[position]? = (before ++ rest)[position]? := by
  rw [← reads, List.getElem?_take_of_lt inside, Array.getElem?_toList]

theorem Reads.getElem?_rest (reads : window.Reads before rest) {ahead : Nat}
    (inside : ahead < rest.length) : window.chars[before.length + ahead]? = rest[ahead]? := by
  have stop := reads.stop_eq
  rw [reads.getElem? (by omega), List.getElem?_append_right (by omega)]
  simp

theorem Reads.head (reads : window.Reads before (c :: rest)) :
    window.chars[before.length]? = some c := by
  simpa using reads.getElem?_rest (show 0 < (c :: rest).length by simp)

theorem Reads.blankAt (reads : window.Reads before (c :: rest)) :
    window.blankAt before.length = Text.isBlank c := by
  rw [Window.blankAt, reads.head]

theorem Reads.hasAt (reads : window.Reads before (c :: rest)) (d : Char) :
    window.hasAt before.length d = (c == d) := by
  simp [Window.hasAt, reads.head]

theorem Reads.slice (reads : window.Reads before (chunk ++ rest)) :
    window.slice before.length (before.length + chunk.length) = chunk := by
  have stop := reads.stop_eq
  simp only [List.length_append] at stop
  have cut : window.chars.toList.take (before.length + chunk.length) = before ++ chunk := by
    have shorter : before.length + chunk.length ≤ window.stop := by omega
    rw [← Nat.min_eq_left shorter, ← List.take_take, reads, ← List.append_assoc,
      ← List.length_append]
    exact List.take_left
  rw [Window.slice, Array.toList_extract, List.extract_eq_take_drop, ← List.drop_take, cut]
  simp

/-- Characters of a chunk, one position at a time. -/
theorem Reads.chunk_getElem? (reads : window.Reads before (chunk ++ rest)) {position : Nat}
    (above : before.length ≤ position) (below : position < before.length + chunk.length) :
    ∃ left d right, chunk = left ++ d :: right ∧ position = before.length + left.length ∧
      window.Reads (before ++ left) (d :: (right ++ rest)) := by
  have inside : position - before.length < chunk.length := by omega
  -- the character at the position, with what stands before and after it in the chunk
  refine ⟨chunk.take (position - before.length), chunk[position - before.length],
    chunk.drop (position - before.length + 1), ?_, ?_, ?_⟩
  · rw [← List.drop_eq_getElem_cons inside, List.take_append_drop]
  · rw [List.length_take]
    omega
  · apply Reads.append
    rw [← List.cons_append, ← List.drop_eq_getElem_cons inside, ← List.append_assoc,
      List.take_append_drop]
    exact reads

/-- Every position of a window has some text before it and some after it. -/
theorem exists_reads (window : Window) {position : Nat} (inside : position ≤ window.stop) :
    ∃ before rest, before.length = position ∧ window.Reads before rest := by
  have size := window.stop_le
  refine ⟨(window.chars.toList.take window.stop).take position,
    (window.chars.toList.take window.stop).drop position, ?_,
    (List.take_append_drop position _).symm⟩
  simp only [List.length_take, Array.length_toList]
  omega

/-! ### Blanks -/

theorem Reads.skipBlanks {blanks : List Char} (reads : window.Reads before (blanks ++ c :: rest))
    (blank : ∀ b ∈ blanks, Text.isBlank b = true) (visible : Text.isBlank c = false) {stop : Nat}
    (inside : before.length + blanks.length < stop) :
    window.skipBlanks before.length stop = before.length + blanks.length := by
  have found : firstIn before.length stop (fun i => !window.blankAt i) =
      some (before.length + blanks.length) := by
    apply firstIn_eq_some
    · rw [← List.length_append, reads.append.blankAt, visible]
      rfl
    · intro i above below
      obtain ⟨left, d, right, rfl, rfl, here⟩ := reads.chunk_getElem? above below
      rw [← List.length_append, here.blankAt, blank d (by simp)]
      rfl
    · omega
    · exact inside
  rw [Window.skipBlanks, found, Option.getD_some]

/-- Nothing is skipped before a character that is not a blank. -/
theorem Reads.skipBlanks_visible (reads : window.Reads before (c :: rest))
    (visible : Text.isBlank c = false) {stop : Nat} (inside : before.length < stop) :
    window.skipBlanks before.length stop = before.length := by
  have whole : window.Reads before ([] ++ c :: rest) := reads
  have skipped := whole.skipBlanks (List.forall_mem_nil _) visible
    (show before.length + 0 < stop from inside)
  simpa using skipped

theorem skipBlanks_of_le {position stop : Nat} (empty : stop ≤ position) :
    window.skipBlanks position stop = position := by
  rw [Window.skipBlanks, firstIn_eq_none fun i above below => absurd above (by omega),
    Option.getD_none]
  omega

/-- Where a visible character is left, the blanks end before it. -/
theorem skipBlanks_lt {position stop visible : Nat}
    (shown : window.blankAt visible = false) (above : position ≤ visible) (below : visible < stop) :
    window.skipBlanks position stop < stop := by
  have found : (firstIn position stop fun i => !window.blankAt i).isSome :=
    firstIn_isSome (by simp [shown]) above below
  obtain ⟨first, found⟩ := Option.isSome_iff_exists.mp found
  rw [skipBlanks, found, Option.getD_some]
  exact (firstIn_bounds found).2

/-! ### Spans -/

theorem trimSpan_between {start stop : Nat} (ordered : start ≤ stop) (inside : stop ≤ window.stop) :
    window.trimSpan (.between start stop) =
      .between (window.skipBlanks start stop)
        (((lastIn (window.skipBlanks start stop) stop fun i => !window.blankAt i).map
          (· + 1)).getD (window.skipBlanks start stop)) := by
  have size := window.stop_le
  have bound : min (max start stop) window.chars.size = stop := by omega
  simp only [Window.trimSpan, Span.between, bound]

/-- Blanks around a text are trimmed away. -/
theorem Reads.trimSpan {lead text trail : List Char}
    (reads : window.Reads before (lead ++ (text ++ (trail ++ rest))))
    (leading : ∀ b ∈ lead, Text.isBlank b = true) (trimmed : Text.isTrimmed text)
    (trailing : ∀ b ∈ trail, Text.isBlank b = true) :
    window.trimSpan (.between before.length
        (before.length + lead.length + text.length + trail.length)) =
      .between (before.length + lead.length) (before.length + lead.length + text.length) := by
  obtain ⟨c, others, starts, visible⟩ := Text.exists_cons_of_isTrimmed trimmed
  obtain ⟨front, d, ends, closed⟩ := Text.exists_concat_of_isTrimmed trimmed
  have stop := reads.stop_eq
  have size : text.length = front.length + 1 := by simp [ends]
  simp only [List.length_append] at stop
  -- trimming goes to the first character of the text from the left and to its last from the right
  have first : window.skipBlanks before.length
      (before.length + lead.length + text.length + trail.length) =
        before.length + lead.length := by
    have here := reads
    rw [starts, List.cons_append] at here
    exact here.skipBlanks leading visible (by omega)
  have last : lastIn (before.length + lead.length)
      (before.length + lead.length + text.length + trail.length)
      (fun i => !window.blankAt i) = some (before.length + lead.length + front.length) := by
    have inner := reads.append
    have tail := inner.append
    rw [ends, List.append_assoc] at inner
    apply lastIn_eq_some
    · rw [← List.length_append, ← List.length_append]
      have final : window.Reads (before ++ lead ++ front) (d :: (trail ++ rest)) := inner.append
      rw [final.blankAt, closed]
      rfl
    · intro i above below
      obtain ⟨left, b, right, rfl, rfl, here⟩ := tail.chunk_getElem?
        (show (before ++ lead ++ text).length ≤ i by simp only [List.length_append]; omega)
        (by simp only [List.length_append]; omega)
      rw [← List.length_append, here.blankAt, trailing b (by simp)]
      rfl
    · omega
    · omega
  rw [trimSpan_between (by omega) (by omega), first, last, Option.map_some, Option.getD_some, size,
    Nat.add_assoc]

/-- A text without blanks at its ends is left as it is. -/
theorem Reads.trimSpan_self {text : List Char} (reads : window.Reads before (text ++ rest))
    (trimmed : Text.isTrimmed text) :
    window.trimSpan (.between before.length (before.length + text.length)) =
      .between before.length (before.length + text.length) := by
  have whole : window.Reads before ([] ++ (text ++ ([] ++ rest))) := reads
  exact whole.trimSpan (List.forall_mem_nil _) trimmed (List.forall_mem_nil _)

/-- Nothing is left of blanks. -/
theorem Reads.trimSpan_blank {blanks : List Char} (reads : window.Reads before (blanks ++ rest))
    (blank : ∀ b ∈ blanks, Text.isBlank b = true) :
    (window.trimSpan (.between before.length (before.length + blanks.length))).isEmpty := by
  have stop := reads.stop_eq
  simp only [List.length_append] at stop
  have skipped : window.skipBlanks before.length (before.length + blanks.length) =
      before.length + blanks.length := by
    rw [Window.skipBlanks, firstIn_eq_none, Option.getD_none]
    · omega
    · intro i above below
      obtain ⟨left, b, right, rfl, rfl, here⟩ := reads.chunk_getElem? above below
      rw [← List.length_append, here.blankAt, blank b (by simp)]
      rfl
  have nothing : lastIn (before.length + blanks.length) (before.length + blanks.length)
      (fun i => !window.blankAt i) = none :=
    lastIn_eq_none fun i above below => absurd above (by omega)
  rw [trimSpan_between (by omega) (by omega), skipped, nothing]
  simp [Span.between, Span.isEmpty]

/-- Whether a text stands at a span of the window. -/
def Spells (window : Window) (span : Span) (text : List Char) : Prop :=
  ∃ before rest, window.Reads before (text ++ rest) ∧
    span = .between before.length (before.length + text.length)

theorem Spells.slice {span : Span} {text : List Char} (spells : window.Spells span text) :
    window.slice span.start span.stop = text := by
  obtain ⟨before, rest, reads, rfl⟩ := spells
  rw [Span.start_between, Span.stop_between_add]
  exact reads.slice

theorem Spells.textOf {span : Span} {text : List Char} (spells : window.Spells span text) :
    window.textOf span = String.ofList text := by
  rw [Window.textOf, spells.slice]

theorem Spells.isEmpty_eq_false {span : Span} {text : List Char} (spells : window.Spells span text)
    (trimmed : Text.isTrimmed text) : span.isEmpty = false := by
  obtain ⟨c, others, starts, _⟩ := Text.exists_cons_of_isTrimmed trimmed
  obtain ⟨before, rest, reads, rfl⟩ := spells
  rw [← Bool.not_eq_true, Span.isEmpty_iff]
  simp [Span.length, Span.between, starts]

theorem Spells.trimSpan_eq {span : Span} {text : List Char} (spells : window.Spells span text)
    (trimmed : Text.isTrimmed text) : window.trimSpan span = span := by
  obtain ⟨before, rest, reads, rfl⟩ := spells
  exact reads.trimSpan_self trimmed

/-- Pieces that are trimmed to texts without blanks at their ends are all kept. -/
theorem filter_trimSpan_eq {spans : List Span} {texts : List (List Char)}
    (spell : List.Forall₂ (fun span text => window.Spells (window.trimSpan span) text) spans texts)
    (trimmed : ∀ text ∈ texts, Text.isTrimmed text) :
    ((spans.map window.trimSpan).filter fun piece => !piece.isEmpty) =
      spans.map window.trimSpan := by
  induction spell with
  | nil => rfl
  | @cons span text spans texts here later ih =>
    have visible := here.isEmpty_eq_false (trimmed text List.mem_cons_self)
    have others := ih fun other member => trimmed other (List.mem_cons_of_mem _ member)
    rw [List.map_cons, List.filter_cons, visible, others]
    rfl

end

/-! ### The window on a text -/

theorem takeWhile_blanks {blanks text : List Char} (blank : ∀ b ∈ blanks, Text.isBlank b = true)
    (visible : ∃ c rest, text = c :: rest ∧ Text.isBlank c = false) :
    (blanks ++ text).takeWhile Text.isBlank = blanks := by
  obtain ⟨c, rest, rfl, shown⟩ := visible
  rw [List.takeWhile_append_of_pos blank, List.takeWhile_cons, shown]
  simp

/-- The window on a text leaves out the blanks around it. -/
theorem ofChars_of_trimmed {lead text trail : List Char}
    (leading : ∀ b ∈ lead, Text.isBlank b = true) (trimmed : Text.isTrimmed text)
    (trailing : ∀ b ∈ trail, Text.isBlank b = true) :
    (ofChars (lead ++ (text ++ trail))).start = lead.length ∧
      (ofChars (lead ++ (text ++ trail))).Reads lead text := by
  obtain ⟨c, rest, starts, first⟩ := Text.exists_cons_of_isTrimmed trimmed
  obtain ⟨front, d, ends, last⟩ := Text.exists_concat_of_isTrimmed trimmed
  have before : (lead ++ (text ++ trail)).takeWhile Text.isBlank = lead :=
    takeWhile_blanks leading ⟨c, rest ++ trail, by rw [starts]; rfl, first⟩
  have after : (lead ++ (text ++ trail)).reverse.takeWhile Text.isBlank = trail.reverse := by
    rw [← List.append_assoc, List.reverse_append]
    refine takeWhile_blanks (fun b member => trailing b (List.mem_reverse.mp member))
      ⟨d, front.reverse ++ lead.reverse, ?_, last⟩
    simp [ends]
  have stop : (ofChars (lead ++ (text ++ trail))).stop = lead.length + text.length := by
    simp only [ofChars, before, after, List.length_append, List.length_reverse]
    omega
  refine ⟨by simp only [ofChars, before], ?_⟩
  rw [Reads, stop]
  simp only [ofChars]
  rw [← List.append_assoc, ← List.length_append]
  exact List.take_left

/-- A window on a text that is not empty ends with a visible character. -/
theorem blankAt_last {question : String}
    (nonempty : (ofText question).start < (ofText question).stop) :
    (ofText question).blankAt ((ofText question).stop - 1) = false := by
  by_cases visible : ∃ c ∈ question.toList, Text.isBlank c = false
  · obtain ⟨lead, text, trail, split, leading, trimmed, trailing⟩ := Text.exists_trimmed visible
    obtain ⟨front, c, rfl, closed⟩ := Text.exists_concat_of_isTrimmed trimmed
    have reads := (ofChars_of_trimmed leading trimmed trailing).2
    rw [← split] at reads
    have stop := reads.stop_eq
    have last : (ofChars question.toList).Reads (lead ++ front) [c] := reads.append
    have seen := last.blankAt
    rw [List.length_append] at seen
    rw [ofText, stop, List.length_append, List.length_singleton, ← closed, ← seen]
    congr 1
  -- a text of blanks alone has an empty window
  · have blank : question.toList.takeWhile Text.isBlank = question.toList := by
      rw [List.takeWhile_eq_self_iff]
      intro c member
      by_contra shown
      exact visible ⟨c, member, by simpa using shown⟩
    simp only [ofText, ofChars, blank] at nonempty
    omega

end Window
end FleetQuery
