import FleetQuery.Proofs.Marks.Parts
import FleetQuery.Proofs.Question.Grammar

/-!
# Marks of filters

A filter marks its predicate. Its label stands at the front, and its value between the first quote
and the last character, since neither a label nor an operator holds a quote.
-/
namespace FleetQuery

/-- Whether a filter repeats the text that it marks. -/
structure Filter.Stands (filter : Filter) (chars : List Char) : Prop where
  marks : filter.span.Marks chars
  text : ∃ middle, filter.span.charsOf chars =
      filter.label.toList ++ (middle ++ '"' :: (filter.value.toList ++ ['"'])) ∧
    '"' ∉ filter.label.toList ∧ '"' ∉ middle

/-! ### Slices -/

namespace Window

variable {window : Window} {start between stop position : Nat} {c : Char}

theorem slice_append (first : start ≤ between) (second : between ≤ stop) :
    window.slice start between ++ window.slice between stop = window.slice start stop := by
  rw [slice, slice, slice, ← Array.toList_append, Array.extract_append_extract,
    Nat.min_eq_left first, Nat.max_eq_right second]

theorem slice_single (here : window.hasAt position c = true) :
    window.slice position (position + 1) = [c] := by
  rw [hasAt, beq_iff_eq] at here
  obtain ⟨inside, rfl⟩ := Array.getElem?_eq_some_iff.mp here
  rw [slice, Array.toList_extract, List.extract_eq_take_drop, Nat.add_sub_cancel_left,
    List.drop_eq_getElem_cons (by simpa using inside)]
  simp

theorem not_mem_slice
    (absent : ∀ i, start ≤ i → i < stop → window.hasAt i c = false) :
    c ∉ window.slice start stop := by
  intro member
  obtain ⟨i, here⟩ := List.mem_iff_getElem?.mp member
  rw [slice, Array.getElem?_toList, Array.getElem?_extract] at here
  split at here
  next inside =>
    have other := absent (start + i) (by omega) (by omega)
    rw [hasAt, here] at other
    simp at other
  next => cases here

end Window

namespace Filter

variable {window : Window} {span : Span}

/-! ### Predicates of a clause -/

/-- The pieces of a clause stand one after another. -/
theorem listed_of_split (window : Window) (stop pivot position : Nat) (ordered : pivot ≤ position)
    (inside : position ≤ stop) : Span.Listed stop pivot (split window stop pivot position) := by
  fun_induction split window stop pivot position with
  | case1 pivot position going blank word after here next ih =>
    have skipped : position + 1 ≤ word := window.le_skipBlanks _ _
    have further : after ≤ next := window.le_skipBlanks _ _
    have reached : next ≤ stop := Window.skipBlanks_le (Nat.le_of_lt here.1)
    exact .cons_between ordered ((ih (Nat.le_refl _) reached).earlier (by omega))
  | case2 pivot position going blank word after here ih =>
    have skipped : position + 1 ≤ word := window.le_skipBlanks _ _
    exact ih (by omega) (Window.skipBlanks_le going)
  | case3 pivot position going visible ih => exact ih (by omega) going
  | case4 pivot position finished =>
    exact .cons_between (ordered.trans inside) (.nil (Nat.le_refl _))

theorem predicates_marks {body : Span} (inside : body.stop ≤ window.stop) :
    Span.Listed body.stop body.start (predicates window body) ∧
      ∀ piece ∈ predicates window body, piece.Marks window.chars.toList := by
  have dots := withoutDots_stop_le window body
  have pieces := listed_of_split window (withoutDots window body).stop body.start body.start
    (Nat.le_refl _) (withoutDots window body).ordered
  refine ⟨(pieces.trimmed window).further dots, ?_⟩
  exact Window.marks_of_mem_trimmed
    fun span member => (pieces.within span member).2.trans (dots.trans inside)

/-! ### Parts of a predicate -/

/-- Where the parts of a predicate stand: its label at the front, and its value between the first
quote and the last character. -/
structure Predicate.Stands (predicate : Predicate) (window : Window) (span : Span)
    (opening : Nat) : Prop where
  label : predicate.label.Marks window.chars.toList
  front : predicate.label.start = span.start
  behind : predicate.label.stop ≤ opening
  room : opening + 3 ≤ span.stop
  opens : window.hasAt opening '"' = true
  closes : window.hasAt (span.stop - 1) '"' = true
  value : predicate.value = .between (opening + 1) (span.stop - 1)
  plain : ∀ i, span.start ≤ i → i < opening → window.hasAt i '"' = false

theorem predicate?_stands {predicate : Predicate} (visible : window.blankAt span.start = false)
    (inside : span.stop ≤ window.stop) (found : predicate? window span = some predicate) :
    ∃ opening, predicate.Stands window span opening := by
  obtain ⟨before, text, start, reading⟩ := window.exists_readsTo inside
  obtain ⟨wording, rfl, rfl⟩ := exists_wording_of_predicate? start reading found
  obtain ⟨rest, reads, ends⟩ := reading
  have labelled := List.length_pos_of_ne_nil wording.labelled
  have valued := List.length_pos_of_ne_nil wording.valued
  have size : wording.chars.length = wording.head.length + 2 + wording.value.length := by
    simp only [wording.chars_eq, List.length_append, List.length_cons, List.length_nil]
    omega
  have longer : (before ++ wording.label).length ≤ (before ++ wording.head).length := by
    simp only [Wording.head, List.length_append]
    omega
  have within : (before ++ wording.label).length ≤ window.stop := by
    simp only [List.length_append] at longer ⊢
    omega
  have last : span.stop - 1 = (before ++ wording.head ++ ['"'] ++ wording.value).length := by
    simp only [List.length_append, List.length_singleton]
    omega
  -- the label stands at the front, the quotes before the value and at the end
  rw [start] at visible
  have wide : before.length < (before ++ wording.label).length := by
    rw [List.length_append]
    omega
  obtain ⟨shown, front⟩ := Window.trimSpan_of_visible wide within visible
  have label := (Window.trimSpan_between_bounds shown).2.2
  rw [wording.chars_eq] at reads
  have head : window.Reads before (wording.head ++ ('"' :: (wording.value ++ '"' :: rest))) := by
    simpa using reads
  have opening := head.append
  refine ⟨(before ++ wording.head).length, ?_, front.trans start.symm, label.trans longer, ?_, ?_,
    ?_, ?_, ?_⟩
  · exact Window.marks_trimSpan_between within shown
  · rw [List.length_append]
    omega
  · rw [opening.hasAt]
    rfl
  · rw [last, opening.tail.append.hasAt]
    rfl
  · rw [last, Wording.valueSpan]
    simp only [List.length_append, List.length_singleton]
  · intro i above below
    rw [List.length_append] at below
    obtain ⟨left, c, right, split, rfl, here⟩ := head.chunk_getElem? (start ▸ above) below
    rw [← List.length_append, here.hasAt, beq_eq_false_iff_ne]
    rintro rfl
    exact wording.head_unquoted (split ▸ by simp)

/-- The characters of a predicate. -/
theorem Predicate.Stands.charsOf {predicate : Predicate} {opening : Nat}
    (stands : predicate.Stands window span opening) :
    ∃ middle, span.charsOf window.chars.toList =
        (window.textOf predicate.label).toList ++
          (middle ++ '"' :: ((window.textOf predicate.value).toList ++ ['"'])) ∧
      '"' ∉ (window.textOf predicate.label).toList ∧ '"' ∉ middle := by
  have room := stands.room
  have behind := stands.behind
  have ordered := predicate.label.ordered
  have opens := Window.slice_single stands.opens
  have closes := Window.slice_single stands.closes
  have value : predicate.value.stop = span.stop - 1 := by
    rw [stands.value]
    exact Nat.max_eq_right (by omega)
  have start : predicate.value.start = opening + 1 := by rw [stands.value]; rfl
  simp only [Window.textOf, String.toList_ofList, stands.front, value, start]
  refine ⟨window.slice predicate.label.stop opening, ?_, ?_, ?_⟩
  · rw [← Window.slice_eq_charsOf, ← closes, Nat.sub_add_cancel (by omega),
      Window.slice_append (by omega) (by omega), ← List.singleton_append, ← opens,
      Window.slice_append (by omega) (by omega), Window.slice_append (by omega) (by omega),
      Window.slice_append (stands.front ▸ ordered) (by omega)]
  · exact Window.not_mem_slice fun i above below => stands.plain i above (by omega)
  · exact Window.not_mem_slice fun i above below =>
      stands.plain i (by rw [← stands.front]; omega) below

/-- A filter repeats its predicate. -/
theorem ofSpan_stands {catalog : Catalog} {filter : Filter} (marks : span.Marks window.chars.toList)
    (inside : span.stop ≤ window.stop) (returned : ofSpan catalog window span = .ok filter) :
    filter.span = span ∧ filter.Stands window.chars.toList := by
  rw [ofSpan] at returned
  split at returned
  next predicate found =>
    obtain ⟨c, here, visible⟩ := marks.first
    obtain ⟨opening, stands⟩ :=
      predicate?_stands (Window.blankAt_of_visible here visible) inside found
    rw [ofPredicate] at returned
    split at returned
    next =>
      cases returned
      exact ⟨rfl, marks, stands.charsOf⟩
    next => cases returned
  next => cases returned

/-- Every filter of a clause repeats its predicate, and they stand one after another. -/
theorem ofSegment_stands {catalog : Catalog} {segment : Clause.Segment} {position : Nat}
    {filters : List Filter} (stands : segment.Stands window position)
    (returned : ofSegment catalog window segment = .ok filters) :
    Span.Listed segment.body.stop segment.body.start (filters.map Filter.span) ∧
      ∀ filter ∈ filters, filter.Stands window.chars.toList := by
  obtain ⟨listed, marks⟩ := predicates_marks stands.inside
  have each : ∀ piece ∈ predicates window segment.body, ∀ filter,
      ofSpan catalog window piece = .ok filter →
        filter.span = piece ∧ filter.Stands window.chars.toList :=
    fun piece member filter =>
      ofSpan_stands (marks piece member) ((listed.within piece member).2.trans stands.inside)
  constructor
  · have spans : Span.Listed segment.body.stop segment.body.start
        (filters.filterMap fun filter => some filter.span) := by
      apply listed.filterMap
      have pairs := (List.forall₂_and_left _ _).mpr ⟨each, (mapM_eq_ok_iff _ _ _).mp returned⟩
      refine pairs.imp ?_
      rintro piece filter ⟨stands, read⟩ mark ⟨⟩
      rw [(stands filter read).1]
      exact ⟨Nat.le_refl _, Nat.le_refl _⟩
    rwa [List.filterMap_eq_map'] at spans
  · intro filter member
    obtain ⟨piece, kept, read⟩ := mapM_mem returned member
    exact (each piece kept filter read).2

theorem warning?_span {filter : Filter} {warning : Warning}
    (warned : filter.warning? = some warning) : warning.span = filter.span := by
  rw [warning?] at warned
  split at warned
  next =>
    cases warned
    rfl
  next => cases warned

end Filter

end FleetQuery
