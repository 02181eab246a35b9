import FleetQuery.Proofs.Recasting.Windows

/-!
# Scanners on windows that read alike

Clauses, items and predicates are found at moved positions. Every span that a scanner gives out is
covered by its window, so its text can be read in both windows.
-/
namespace FleetQuery

variable {recasting : Recasting} {left right : Window} (alike : Window.Alike recasting left right)

/-! ### Clauses -/

namespace Recasting

def segment (recasting : Recasting) (segment : Clause.Segment) : Clause.Segment :=
  ⟨recasting.span segment.keyword, recasting.span segment.body,
    segment.next + recasting.shift⟩

end Recasting

namespace Clause

/-- A blank begins no word. -/
theorem followsStarts_of_blank {window : Window} {position : Nat}
    (blank : window.blankAt (position - 6) = true) : followsStarts window position = false := by
  rw [followsStarts, Bool.and_eq_false_iff]
  right
  rw [← Bool.not_eq_true]
  intro same
  -- the word would begin with the blank
  rw [Text.sameIgnoringAsciiCase, beq_iff_eq] at same
  have first := congrArg (·[0]?) same
  simp only [List.getElem?_map, Window.slice, Array.getElem?_toList, Array.getElem?_extract] at first
  split at first
  next =>
    cases shown : window.chars[position - 6]? with
    | none => simp [shown] at first
    | some c =>
      have here : Text.isBlank c = true := by simpa [Window.blankAt, shown] using blank
      rw [Nat.add_zero, shown] at first
      have lowered : c.toLower = 's' := by simpa using first
      rw [← Text.isBlank_toLower, lowered] at here
      cases here
  next => simp at first

include alike

/-- Before the text there are only blanks, so a word that reaches its start begins there. -/
theorem wordBegins_alike {position : Nat} (long : 6 ≤ position) (inside : position ≤ left.stop) :
    (position + recasting.shift == 6 || right.blankAt (position + recasting.shift - 7)) =
      (position == 6 || left.blankAt (position - 7)) := by
  rcases Nat.eq_or_lt_of_le long with rfl | later
  · cases shift : recasting.shift with
    | zero => rfl
    | succ less =>
      have blank : right.blankAt (6 + (less + 1) - 7) = true := alike.before _ (by omega)
      rw [blank, Bool.or_true, beq_self_eq_true, Bool.true_or]
  · have moved : position + recasting.shift - 7 = position - 7 + recasting.shift := by omega
    rw [moved, alike.blankAt (by omega), beq_false_of_ne (by omega), beq_false_of_ne (by omega)]

theorem followsStarts_alike {position : Nat} (inside : position ≤ left.stop) :
    followsStarts right (position + recasting.shift) = followsStarts left position := by
  by_cases long : 6 ≤ position
  · have moved : position + recasting.shift - 6 = position - 6 + recasting.shift := by omega
    have word : Text.sameIgnoringAsciiCase
        (right.slice (position - 6 + recasting.shift) (position + recasting.shift))
          "starts".toList =
        Text.sameIgnoringAsciiCase (left.slice (position - 6) position) "starts".toList :=
      alike.slice_congr (f := fun chars => Text.sameIgnoringAsciiCase chars "starts".toList)
        (fun chars => recasting.folding.sameIgnoringAsciiCase_map chars _) (.inr inside)
    rw [followsStarts, followsStarts, wordBegins_alike alike long inside, moved, word,
      decide_eq_true long, decide_eq_true (Nat.le_add_right_of_le long)]
  · have absent : followsStarts left position = false := by
      rw [followsStarts, decide_eq_false long]
      rfl
    rw [absent]
    -- on the right there may be room for the word, but only by the blanks before the text
    by_cases room : 6 ≤ position + recasting.shift
    · exact followsStarts_of_blank (alike.before _ (by omega))
    · rw [followsStarts, decide_eq_false room]
      rfl

theorem isBoundaryAt_alike (position : Nat) (clause : Clause) :
    isBoundaryAt right (position + recasting.shift) clause = isBoundaryAt left position clause := by
  rw [isBoundaryAt, isBoundaryAt, Keyword.matchesAt_alike alike]
  cases found : clause.boundary.matchesAt left position with
  | false => rfl
  | true =>
    -- the keyword ends in the window, and so does what stands before it
    have inside := Keyword.le_stop_of_matchesAt found
    rw [followsStarts_alike alike (by omega)]

theorem boundaryAt?_alike (position : Nat) :
    boundaryAt? right (position + recasting.shift) = boundaryAt? left position := by
  have same := funext (isBoundaryAt_alike alike position)
  rw [boundaryAt?, boundaryAt?, same]

theorem findBoundary?_alike (start : Nat) :
    findBoundary? right (start + recasting.shift) =
      (findBoundary? left start).map fun found => (found.1 + recasting.shift, found.2) := by
  have found := firstIn_moved (p := fun i => (boundaryAt? left i).isSome)
    (q := fun i => (boundaryAt? right i).isSome)
    fun i (above : start ≤ i) (below : i < left.stop) =>
      congrArg Option.isSome (boundaryAt?_alike alike i)
  rw [findBoundary?, findBoundary?, alike.stop, found]
  cases firstIn start left.stop fun i => (boundaryAt? left i).isSome with
  | none => rfl
  | some position =>
    simp only [Option.map_some, Option.bind_some, boundaryAt?_alike alike, Option.map_map]
    rfl

theorem segmentEnd_alike (start : Nat) :
    segmentEnd right (start + recasting.shift) = segmentEnd left start + recasting.shift := by
  rw [segmentEnd, segmentEnd, findBoundary?_alike alike]
  cases findBoundary? left start with
  | none => exact alike.stop
  | some found => rfl

theorem detect?_alike (position : Nat) :
    detect? right (position + recasting.shift) = detect? left position := by
  have same : (fun clause : Clause => clause.keyword.matchesAt right (position + recasting.shift)) =
      fun clause => clause.keyword.matchesAt left position :=
    funext fun clause => Keyword.matchesAt_alike alike clause.keyword position
  rw [detect?, detect?, same]

theorem segment?_alike (clause : Clause) (position : Nat) :
    segment? right clause (position + recasting.shift) =
      (segment? left clause position).map recasting.segment := by
  rw [segment?, segment?, Keyword.matchesAt_alike alike]
  split
  next =>
    have body : left.Covers (.between (left.jump position clause.keyword.length)
        (segmentEnd left (left.jump position clause.keyword.length))) :=
      Window.covers_between (segmentEnd_le left _)
    simp only [alike.jump, segmentEnd_alike alike, Option.map_some, Recasting.segment,
      alike.jumpTo, alike.skipAhead, ← recasting.span_between, alike.trimSpan body]
    rw [recasting.span_between, Nat.add_right_comm]
  next => rfl

omit alike in
theorem covers_name {window : Window} {clause : Clause} {position : Nat}
    (here : clause.keyword.matchesAt window position = true) :
    window.Covers (.between position (position + clause.name.length)) := by
  have fits := Keyword.le_stop_of_matchesAt here
  have longer : clause.keyword.length = clause.name.length + 1 := by
    simp [keyword, Keyword.length, String.length_toList]
  exact Window.covers_between (by omega)

omit alike in
theorem matchesAt_of_detect? {window : Window} {clause : Clause} {position : Nat}
    (detected : detect? window position = some clause) :
    clause.keyword.matchesAt window position = true := by
  rw [detect?] at detected
  simpa using List.find?_some detected

omit alike in
/-- The parts of a clause lie in the window. -/
theorem covers_segment {window : Window} {clause : Clause} {position : Nat} {segment : Segment}
    (found : segment? window clause position = some segment) :
    window.Covers segment.keyword ∧ window.Covers segment.body := by
  rw [segment?] at found
  split at found
  next here =>
    cases found
    exact ⟨covers_name here, (Window.covers_between (segmentEnd_le window _)).trimSpan⟩
  next => cases found

end Clause

/-! ### Items -/

namespace Projection

/-- The window covers the items of a list. -/
theorem covers_of_cut (window : Window) (pivot position : Nat) :
    ∀ found, cut window pivot position = some found → ∀ item ∈ found.1, window.Covers item := by
  have inside : ∀ pivot position, ¬ window.stop ≤ position →
      window.Covers (.between pivot position) :=
    fun pivot position going => Window.covers_between (by omega)
  fun_induction cut window pivot position with
  | case1 =>
    intro found ends
    cases ends
  | case2 pivot position going ended =>
    intro found ends
    cases ends
    rw [List.forall_mem_singleton]
    exact inside pivot position going
  | case3 pivot position going ended comma ih =>
    intro found ends
    obtain ⟨others, later, rfl⟩ := Option.map_eq_some_iff.mp ends
    rw [List.forall_mem_cons]
    exact ⟨inside pivot position going, ih others later⟩
  | case4 pivot position going ended comma word next ih =>
    intro found ends
    obtain ⟨others, later, rfl⟩ := Option.map_eq_some_iff.mp ends
    rw [List.forall_mem_cons]
    exact ⟨inside pivot position going, ih others later⟩
  | case5 pivot position going ended comma word ih => exact ih

include alike

theorem endsAt_alike (position : Nat) :
    endsAt right (position + recasting.shift) = endsAt left position :=
  Keyword.matchesAt_alike alike .scopeOpening position

theorem afterSeparator_alike (position : Nat) :
    afterSeparator right (position + recasting.shift) =
      afterSeparator left position + recasting.shift := by
  rw [afterSeparator, afterSeparator, Nat.add_right_comm, endsAt_alike alike]
  split
  next => rfl
  next => exact Nat.add_right_comm ..

/-- The places of a list, moved. -/
theorem cut_alike (pivot position : Nat) :
    cut right (pivot + recasting.shift) (position + recasting.shift) =
      (cut left pivot position).map fun found =>
        (found.1.map recasting.span, found.2 + recasting.shift) := by
  have stop := alike.stop
  fun_induction cut left pivot position with
  | case1 pivot position finished =>
    rw [cut, if_pos (by omega)]
    rfl
  | case2 pivot position going ended =>
    rw [cut, if_neg (by omega), endsAt_alike alike, if_pos ended, ← recasting.span_between]
    rfl
  | case3 pivot position going ended comma ih =>
    have same := alike.hasAt (i := position) (c := ',') (by omega) (by decide) (by decide)
    rw [cut, if_neg (by omega), endsAt_alike alike, if_neg ended, same, if_pos comma,
      Nat.add_right_comm, ih, ← recasting.span_between, Option.map_map, Option.map_map]
    rfl
  | case4 pivot position going ended comma word next ih =>
    have same := alike.hasAt (i := position) (c := ',') (by omega) (by decide) (by decide)
    rw [cut, if_neg (by omega), endsAt_alike alike, if_neg ended, same, if_neg comma,
      Keyword.matchesAt_alike alike, if_pos word]
    simp only [afterSeparator_alike alike]
    rw [ih, ← recasting.span_between, Option.map_map, Option.map_map]
    rfl
  | case5 pivot position going ended comma word ih =>
    have same := alike.hasAt (i := position) (c := ',') (by omega) (by decide) (by decide)
    rw [cut, if_neg (by omega), endsAt_alike alike, if_neg ended, same, if_neg comma,
      Keyword.matchesAt_alike alike, if_neg word, Nat.add_right_comm, ih]

end Projection

/-! ### Trimmed pieces -/

include alike in
/-- Pieces are trimmed, and passed over where nothing is left, in the same way. -/
theorem trimmed_alike {spans : List Span} (covered : ∀ span ∈ spans, left.Covers span) :
    (((spans.map recasting.span).map right.trimSpan).filter fun piece => !piece.isEmpty) =
      ((spans.map left.trimSpan).filter fun piece => !piece.isEmpty).map recasting.span := by
  have trimmed : (spans.map recasting.span).map right.trimSpan =
      (spans.map left.trimSpan).map recasting.span := by
    rw [List.map_map, List.map_map]
    exact List.map_congr_left fun span member => alike.trimSpan (covered span member)
  have kept : (fun piece : Span => !piece.isEmpty) ∘ recasting.span =
      fun piece => !piece.isEmpty :=
    funext fun piece => congrArg not (recasting.span_isEmpty piece)
  rw [trimmed, List.filter_map, kept]

/-- A piece that is kept is not empty, so it ends in the window. -/
theorem stop_le_of_mem_trimmed {window : Window} {spans : List Span}
    (covered : ∀ span ∈ spans, window.Covers span) :
    ∀ piece ∈ (spans.map window.trimSpan).filter fun piece => !piece.isEmpty,
      piece.stop ≤ window.stop := by
  intro piece member
  obtain ⟨kept, visible⟩ := List.mem_filter.mp member
  obtain ⟨span, listed, rfl⟩ := List.mem_map.mp kept
  rcases (covered span listed).trimSpan with empty | inside
  · simp [Span.isEmpty, empty] at visible
  · exact inside

end FleetQuery
