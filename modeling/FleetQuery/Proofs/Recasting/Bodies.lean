import FleetQuery.Proofs.Recasting.Scanners

/-!
# Bodies of clauses on windows that read alike

The predicates of a filter clause, their labels and values, the last word of an order and the first
word of a limit are found at moved positions.
-/
namespace FleetQuery

variable {recasting : Recasting} {left right : Window} (alike : Window.Alike recasting left right)

/-! ### Lists of positions -/

theorem takeWhile_moved {left right : Nat → Bool} {shift : Nat} {positions : List Nat}
    (agree : ∀ i ∈ positions, right (i + shift) = left i) :
    (positions.map (· + shift)).takeWhile right =
      (positions.takeWhile left).map (· + shift) := by
  induction positions with
  | nil => rfl
  | cons position rest ih =>
    have later := ih fun i member => agree i (List.mem_cons_of_mem _ member)
    rw [List.map_cons, List.takeWhile_cons, List.takeWhile_cons, later,
      agree position List.mem_cons_self]
    split <;> rfl

theorem findSome?_moved {α β : Type} {left : Nat → Option α} {right : Nat → Option β}
    {value : α → β} {shift : Nat} {positions : List Nat}
    (agree : ∀ i ∈ positions, right (i + shift) = (left i).map value) :
    (positions.map (· + shift)).findSome? right = (positions.findSome? left).map value := by
  induction positions with
  | nil => rfl
  | cons position rest ih =>
    have later := ih fun i member => agree i (List.mem_cons_of_mem _ member)
    rw [List.map_cons, List.findSome?_cons, List.findSome?_cons, later,
      agree position List.mem_cons_self]
    cases left position <;> rfl

/-! ### Shorter spans -/

/-- A span that ends no later than a covered one is covered. -/
theorem Window.Covers.shorter {window : Window} {span : Span} (covered : window.Covers span)
    {stop : Nat} (less : stop ≤ span.stop) : window.Covers (.between span.start stop) := by
  simp only [Window.Covers, Span.between] at covered ⊢
  omega

/-! ### Filters -/

namespace Filter

theorem split_covers {window : Window} {stop : Nat} (inside : stop ≤ window.stop)
    (pivot position : Nat) : ∀ piece ∈ split window stop pivot position, window.Covers piece := by
  fun_induction split window stop pivot position with
  | case1 pivot position going blank word after here next ih =>
    rw [List.forall_mem_cons]
    exact ⟨Window.covers_between (by omega), ih⟩
  | case2 pivot position going blank word after here ih => exact ih
  | case3 pivot position going visible ih => exact ih
  | case4 pivot position finished =>
    rw [List.forall_mem_singleton]
    exact Window.covers_between inside

/-- Nothing is left of a body without characters. -/
theorem predicates_of_empty {window : Window} {body : Span} (empty : body.start = body.stop) :
    predicates window body = [] := by
  have nothing : lastIn body.start body.stop (fun i => !window.hasAt i '.') = none :=
    lastIn_eq_none fun i above below => absurd above (by omega)
  have dots : withoutDots window body = .between body.start body.start := by
    rw [withoutDots, nothing]
    rfl
  have piece : (Span.between body.start body.start).start =
      (Span.between body.start body.start).stop := by simp [Span.between]
  have single : split window (Span.between body.start body.start).stop
      (Span.between body.start body.start).start (Span.between body.start body.start).start =
        [.between body.start body.start] := by
    rw [split, if_neg (by omega), ← piece]
    rfl
  rw [predicates, dots]
  simp only [single, List.map_singleton, Window.trimSpan_of_empty piece]
  simp [Span.isEmpty, Span.between]

theorem withoutDots_stop_le (window : Window) (body : Span) :
    (withoutDots window body).stop ≤ body.stop := by
  have ordered := body.ordered
  rw [withoutDots, Span.between]
  cases found : lastIn body.start body.stop fun i => !window.hasAt i '.' with
  | none => simp [ordered]
  | some last =>
    have bounds := lastIn_bounds found
    simp only [Option.map_some, Option.getD_some]
    omega

include alike

theorem withoutDots_alike {body : Span} (inside : body.stop ≤ left.stop) :
    withoutDots right (recasting.span body) = recasting.span (withoutDots left body) := by
  have last := lastIn_moved (p := fun i => !left.hasAt i '.')
    (q := fun i => !right.hasAt i '.') (k := recasting.shift)
    fun i (above : body.start ≤ i) (below : i < body.stop) =>
      congrArg not (alike.hasAt (c := '.') (by omega) (by decide) (by decide))
  simp only [withoutDots, recasting.span_between]
  simp only [recasting.span_start, recasting.span_stop, last]
  congr 1
  cases lastIn body.start body.stop fun i => !left.hasAt i '.' with
  | none => rfl
  | some last => exact Nat.add_right_comm ..

theorem split_alike {stop : Nat} (inside : stop ≤ left.stop) (pivot position : Nat) :
    split right (stop + recasting.shift) (pivot + recasting.shift) (position + recasting.shift) =
      (split left stop pivot position).map recasting.span := by
  have skipped : ∀ position, right.skipBlanks (position + recasting.shift)
      (stop + recasting.shift) = left.skipBlanks position stop + recasting.shift :=
    fun position => alike.skipBlanks (.inr inside)
  fun_induction split left stop pivot position with
  | case1 pivot position going blank word after here next ih =>
    have same := alike.blankAt (show position < left.stop by omega)
    have moved : word + recasting.shift + Keyword.predicateSeparator.length =
        after + recasting.shift := Nat.add_right_comm ..
    rw [split, if_pos (by omega), same, if_pos blank, Nat.add_right_comm]
    simp only [skipped]
    rw [moved, Keyword.matchesAt_alike alike, if_pos ⟨by omega, here.2⟩, skipped, ih,
      ← recasting.span_between]
    rfl
  | case2 pivot position going blank word after here ih =>
    have same := alike.blankAt (show position < left.stop by omega)
    have moved : word + recasting.shift + Keyword.predicateSeparator.length =
        after + recasting.shift := Nat.add_right_comm ..
    have short : ¬ (after + recasting.shift < stop + recasting.shift ∧
        Keyword.predicateSeparator.matchesAt left word = true) :=
      fun found => here ⟨by omega, found.2⟩
    rw [split, if_pos (by omega), same, if_pos blank, Nat.add_right_comm]
    simp only [skipped]
    rw [moved, Keyword.matchesAt_alike alike, if_neg short, ih]
  | case3 pivot position going visible ih =>
    have same := alike.blankAt (show position < left.stop by omega)
    rw [split, if_pos (by omega), same, if_neg visible, Nat.add_right_comm, ih]
  | case4 pivot position finished =>
    rw [split, if_neg (by omega), ← recasting.span_between]
    rfl

theorem predicates_alike {body : Span} (covered : left.Covers body) :
    predicates right (recasting.span body) = (predicates left body).map recasting.span := by
  -- the body of a last clause may be empty and lie past the end
  rcases covered with empty | inside
  · rw [predicates_of_empty empty, predicates_of_empty (by simp [Recasting.span, empty])]
    rfl
  · have dots := Nat.le_trans (withoutDots_stop_le left body) inside
    rw [predicates, predicates, withoutDots_alike alike inside]
    simp only [recasting.span_start, recasting.span_stop, split_alike alike dots]
    exact trimmed_alike alike (split_covers dots _ _)

omit alike in
/-- A predicate is not empty, so it ends in the window. -/
theorem stop_le_of_mem_predicates {window : Window} {body piece : Span}
    (covered : window.Covers body) (member : piece ∈ predicates window body) :
    piece.stop ≤ window.stop := by
  rcases covered with empty | inside
  · rw [predicates_of_empty empty] at member
    cases member
  · have dots := Nat.le_trans (withoutDots_stop_le window body) inside
    exact stop_le_of_mem_trimmed (split_covers dots _ _) piece member

/-! ### Parts of a predicate -/

omit alike in
theorem lt_of_mem_labelEnds {window : Window} {span : Span} {labelEnd : Nat}
    (member : labelEnd ∈ labelEnds window span) : labelEnd < span.stop := by
  have listed := List.takeWhile_subset _ member
  rw [List.mem_range'_1, Span.length] at listed
  omega

theorem labelEnds_alike {span : Span} (inside : span.stop ≤ left.stop) :
    labelEnds right (recasting.span span) =
      (labelEnds left span).map (· + recasting.shift) := by
  have positions : List.range' (span.start + recasting.shift + 1) (span.length - 1) =
      (List.range' (span.start + 1) (span.length - 1)).map (· + recasting.shift) := by
    rw [Nat.add_right_comm, Nat.add_comm, ← List.map_add_range']
    exact List.map_congr_left fun i _ => Nat.add_comm ..
  simp only [labelEnds, recasting.span_start, recasting.span_length, positions]
  apply takeWhile_moved
  intro i member
  rw [List.mem_range'_1, Span.length] at member
  have inside : i - 1 < left.stop := by omega
  rw [show i + recasting.shift - 1 = i - 1 + recasting.shift by omega]
  obtain ⟨c, d, here, there, same⟩ := alike.exists_chars inside
  simp only [here, there, isLabelChar]
  rw [← recasting.folding.isAlphanum_char c, ← recasting.folding.isBlank_char c, same,
    recasting.folding.isAlphanum_char, recasting.folding.isBlank_char]

theorem quotedValue?_alike {opening stop : Nat} (inside : stop ≤ left.stop) :
    quotedValue? right (opening + recasting.shift) (stop + recasting.shift) =
      (quotedValue? left opening stop).map recasting.span := by
  -- both quotes and a character between them
  by_cases long : opening + 3 ≤ stop
  · have opens := alike.hasAt (i := opening) (c := '"') (by omega) (by decide) (by decide)
    have closes := alike.hasAt (i := stop - 1) (c := '"') (by omega) (by decide) (by decide)
    have quoted : ('"' ∈ right.slice (opening + 1 + recasting.shift)
        (stop - 1 + recasting.shift)) = ('"' ∈ left.slice (opening + 1) (stop - 1)) := by
      refine alike.slice_congr (f := fun chars => '"' ∈ chars) ?_ (.inr (by omega))
      intro chars
      rw [List.mem_map, eq_iff_iff]
      constructor
      · rintro ⟨c, member, folded⟩
        rwa [(recasting.folding.char_eq_iff c '"' (by decide) (by decide)).mp folded] at member
      · intro member
        exact ⟨'"', member, (recasting.folding.char_eq_iff _ _ (by decide) (by decide)).mpr rfl⟩
    have first : opening + recasting.shift + 1 = opening + 1 + recasting.shift :=
      Nat.add_right_comm ..
    have last : stop + recasting.shift - 1 = stop - 1 + recasting.shift := by omega
    have longer : opening + recasting.shift + 3 ≤ stop + recasting.shift := by omega
    simp only [quotedValue?, first, last, opens, closes, quoted, long, longer, true_and]
    split
    next => rw [← recasting.span_between]; rfl
    next => rfl
  · rw [quotedValue?, quotedValue?, if_neg fun found => long (by omega),
      if_neg fun found => long found.1]
    rfl

end Filter

namespace Recasting

def predicate (recasting : Recasting) (predicate : Filter.Predicate) : Filter.Predicate :=
  ⟨recasting.span predicate.label, predicate.operator, recasting.span predicate.value⟩

end Recasting

namespace Filter

include alike

theorem predicateAt?_alike {span : Span} {labelEnd : Nat} (inside : span.stop ≤ left.stop)
    (below : labelEnd < span.stop) (operator : FilterOperator) :
    predicateAt? right (recasting.span span) (labelEnd + recasting.shift) operator =
      (predicateAt? left span labelEnd operator).map recasting.predicate := by
  have skipped : ∀ position, right.skipBlanks (position + recasting.shift)
      (span.stop + recasting.shift) = left.skipBlanks position span.stop + recasting.shift :=
    fun position => alike.skipBlanks (.inr inside)
  have moved : left.skipBlanks labelEnd span.stop + recasting.shift + operator.keyword.length =
      left.skipBlanks labelEnd span.stop + operator.keyword.length + recasting.shift :=
    Nat.add_right_comm ..
  simp only [predicateAt?]
  simp only [recasting.span_start, recasting.span_stop, skipped, moved,
    Keyword.matchesAt_alike alike, alike.blankAt (show labelEnd < left.stop by omega),
    Nat.add_lt_add_iff_right]
  -- only where the span goes on behind the keyword is the next character one of the window
  by_cases room : left.skipBlanks labelEnd span.stop + operator.keyword.length < span.stop
  · have label : left.Covers (.between span.start labelEnd) :=
      Window.covers_between (by omega)
    rw [alike.blankAt (show _ < left.stop by omega)]
    split
    next =>
      rw [quotedValue?_alike alike inside, ← recasting.span_between, alike.trimSpan label,
        Option.map_map, Option.map_map]
      rfl
    next => rfl
  · rw [if_neg fun found => room found.2.2.1, if_neg fun found => room found.2.2.1]
    rfl

theorem predicate?_alike {span : Span} (inside : span.stop ≤ left.stop) :
    predicate? right (recasting.span span) =
      (predicate? left span).map recasting.predicate := by
  rw [predicate?, predicate?, labelEnds_alike alike inside]
  apply findSome?_moved
  intro labelEnd member
  rw [List.map_findSome?]
  congr 1
  exact funext (predicateAt?_alike alike inside (lt_of_mem_labelEnds member))

omit alike in
/-- The parts of a predicate lie in the window. -/
theorem covers_predicate {window : Window} {span : Span} {predicate : Predicate}
    (inside : span.stop ≤ window.stop) (found : predicate? window span = some predicate) :
    window.Covers predicate.label ∧ window.Covers predicate.value := by
  obtain ⟨labelEnd, member, found⟩ := List.exists_of_findSome?_eq_some found
  obtain ⟨operator, _, found⟩ := List.exists_of_findSome?_eq_some found
  have below := lt_of_mem_labelEnds member
  rw [predicateAt?] at found
  split at found
  next =>
    obtain ⟨value, quoted, rfl⟩ := Option.map_eq_some_iff.mp found
    refine ⟨(Window.covers_between (by omega)).trimSpan, ?_⟩
    rw [quotedValue?] at quoted
    split at quoted
    next =>
      cases quoted
      exact Window.covers_between (by omega)
    next => cases quoted
  next => cases found

end Filter

/-! ### Words of a body -/

namespace OrderBy

theorem lastWord_le (window : Window) (span : Span) : lastWord window span ≤ span.stop := by
  have ordered := span.ordered
  rw [lastWord]
  cases found : lastIn span.start span.stop window.blankAt with
  | none => simp [ordered]
  | some last =>
    have bounds := lastIn_bounds found
    simp only [Option.map_some, Option.getD_some]
    omega

theorem splitDirection_covers {window : Window} {body : Span} (covered : window.Covers body) :
    window.Covers (splitDirection window body).1 := by
  have shorter := (covered.shorter (lastWord_le window body)).trimSpan
  rw [splitDirection]
  split
  next => exact shorter
  next =>
    split
    next => exact shorter
    next => exact covered.trimSpan

include alike

theorem lastWord_alike {span : Span} (covered : left.Covers span) :
    lastWord right (recasting.span span) = lastWord left span + recasting.shift := by
  have last := lastIn_moved (p := left.blankAt) (q := right.blankAt)
    (k := recasting.shift) fun i (above : span.start ≤ i) (below : i < span.stop) =>
      alike.blankAt (covered.inside above below)
  simp only [lastWord, recasting.span_start, recasting.span_stop, last]
  cases lastIn span.start span.stop left.blankAt with
  | none => rfl
  | some last => exact Nat.add_right_comm ..

theorem isWord_alike (keyword : Keyword) (start stop : Nat) :
    isWord right keyword (start + recasting.shift) (stop + recasting.shift) =
      isWord left keyword start stop := by
  have ends : (start + recasting.shift + keyword.length == stop + recasting.shift) =
      (start + keyword.length == stop) := by
    rw [Nat.add_right_comm, Bool.eq_iff_iff, beq_iff_eq, beq_iff_eq, Nat.add_right_cancel_iff]
  simp only [isWord, Keyword.matchesAt_alike alike, ends, Nat.add_lt_add_iff_right]

theorem splitDirection_alike {body : Span} (covered : left.Covers body) :
    splitDirection right (recasting.span body) =
      (recasting.span (splitDirection left body).1, (splitDirection left body).2) := by
  have shorter := alike.trimSpan (covered.shorter (lastWord_le left body))
  rw [recasting.span_between] at shorter
  simp only [splitDirection, lastWord_alike alike covered, recasting.span_stop,
    recasting.span_start, isWord_alike alike, shorter, alike.trimSpan covered]
  split
  next => rfl
  next => split <;> rfl

end OrderBy

namespace Limit

theorem firstWord_covers {window : Window} {span : Span} (covered : window.Covers span) :
    window.Covers (firstWord window span) := by
  refine covered.shorter ?_
  cases found : firstIn span.start span.stop window.blankAt with
  | none => exact Nat.le_refl _
  | some first => exact Nat.le_of_lt (firstIn_bounds found).2

include alike

theorem firstWord_alike {span : Span} (covered : left.Covers span) :
    firstWord right (recasting.span span) = recasting.span (firstWord left span) := by
  have first := firstIn_moved (p := left.blankAt) (q := right.blankAt)
    (k := recasting.shift) fun i (above : span.start ≤ i) (below : i < span.stop) =>
      alike.blankAt (covered.inside above below)
  simp only [firstWord, recasting.span_between]
  simp only [recasting.span_start, recasting.span_stop, first]
  congr 1
  cases firstIn span.start span.stop left.blankAt <;> rfl

end Limit
end FleetQuery
