import FleetQuery.Proofs.Evaluation.Answers
import FleetQuery.Proofs.Marks.Filters
import FleetQuery.Proofs.Recasting.Surroundings

/-!
# Marks of errors

An error highlights something that was typed: its span marks visible text, and its text is what the
span covers. Every reader takes the span from the text that it could not read, or from the keyword
before it if there is none. Main statement: `highlights_of_parse_error`.
-/
namespace FleetQuery

/-- No visible character stands among the blanks that begin a text. -/
theorem Text.leading_le {chars : List Char} {position : Nat} {c : Char}
    (here : chars[position]? = some c) (visible : isBlank c = false) :
    (chars.takeWhile isBlank).length ≤ position := by
  induction chars generalizing position with
  | nil => cases here
  | cons d rest ih =>
    rw [List.takeWhile_cons]
    split
    next blank =>
      cases position with
      | zero =>
        cases here
        rw [visible] at blank
        cases blank
      | succ position => exact Nat.succ_le_succ (ih here)
    next => exact Nat.zero_le _

/-- Whether an error repeats visible text at the place that it names. -/
structure ParseError.Highlights (error : ParseError) (chars : List Char) : Prop where
  marks : error.span.Marks chars
  text : error.text.toList = error.span.charsOf chars

theorem ParseError.highlights_locate {window : Window} {cause : Cause} {span : Span}
    (marks : span.Marks window.chars.toList) :
    (locate window cause span).Highlights window.chars.toList :=
  ⟨marks, by rw [locate, Window.textOf_eq_ofList, String.toList_ofList]⟩

/-- The first word of a text that begins visibly marks visible text. -/
theorem Window.marks_word {window : Window} {start stop : Nat} (ordered : start < stop)
    (inside : stop ≤ window.stop) (visible : window.blankAt start = false) :
    start < (firstIn start stop window.blankAt).getD stop ∧
      (Span.between start ((firstIn start stop window.blankAt).getD stop)).Marks
        window.chars.toList := by
  -- up to its end the word has no blank
  have solid : ∀ i, start ≤ i → i < (firstIn start stop window.blankAt).getD stop →
      window.blankAt i = false := by
    intro i above below
    cases found : firstIn start stop window.blankAt with
    | some blank =>
      rw [found] at below
      exact (firstIn_holds found).2 i above below
    | none =>
      rw [found] at below
      by_contra blank
      have some : (firstIn start stop window.blankAt).isSome :=
        firstIn_isSome ((Bool.not_eq_false _).mp blank) above below
      rw [found] at some
      cases some
  have bounds : start < (firstIn start stop window.blankAt).getD stop ∧
      (firstIn start stop window.blankAt).getD stop ≤ stop := by
    cases found : firstIn start stop window.blankAt with
    | some blank =>
      have bounds := firstIn_bounds found
      have other : start ≠ blank := by
        rintro rfl
        rw [(firstIn_holds found).1] at visible
        cases visible
      exact ⟨Nat.lt_of_le_of_ne bounds.1 other, Nat.le_of_lt bounds.2⟩
    | none => exact ⟨ordered, Nat.le_refl _⟩
  generalize (firstIn start stop window.blankAt).getD stop = wordEnd at solid bounds ⊢
  have ends : (Span.between start wordEnd).stop = wordEnd := Nat.max_eq_right (by omega)
  refine ⟨bounds.1, marks_of_visible ?_ ?_ visible ?_⟩ <;> rw [ends]
  · exact bounds.1
  · omega
  · exact solid _ (by omega) (by omega)

variable {catalog : Catalog} {window : Window} {error : ParseError}

/-- A label that is not known is highlighted where it stands. -/
theorem Column.known_highlights {column : Column} {cause : ParseError.Cause}
    (marks : column.span.Marks window.chars.toList)
    (failed : column.known window catalog cause = .error error) :
    error.Highlights window.chars.toList := by
  rw [(known_eq_error_iff.mp failed).2]
  exact ParseError.highlights_locate marks

/-! ### Items -/

namespace Projection

theorem readItem_highlights {span : Span} (marks : span.Marks window.chars.toList)
    (inside : span.stop ≤ window.stop) (failed : readItem catalog window span = .error error) :
    error.Highlights window.chars.toList := by
  rw [readItem] at failed
  split at failed
  next call found =>
    split at failed
    next => cases failed
    next target targeted =>
      obtain ⟨stands, _⟩ := aggregateCall?_stands inside found target targeted
      exact Column.known_highlights stands.marks ((map_eq_error_iff _ _ _).mp failed)
  next => exact Column.known_highlights marks ((map_eq_error_iff _ _ _).mp failed)

/-- Without ` from ` the first three characters are highlighted, which are the word `get`. -/
theorem read_highlights {position : Nat}
    (opened : Keyword.get.matchesAt window window.start = true)
    (failed : (read catalog window position).outcome = .error error) :
    error.Highlights window.chars.toList := by
  rw [read] at failed
  split at failed
  next =>
    cases failed
    have fits : window.start + 4 ≤ window.stop := Keyword.le_stop_of_matchesAt opened
    have plain : Keyword.get.isPlain := by decide
    have first : window.blankAt window.start = false :=
      Keyword.blankAt_of_head plain rfl opened
    have last : window.blankAt (window.start + 2) = false :=
      Keyword.blankAt_letter plain opened (by decide)
    have stop : (Span.between window.start (window.start + 3)).stop = window.start + 3 :=
      Nat.max_eq_right (Nat.le_add_right _ _)
    apply ParseError.highlights_locate
    refine Window.marks_of_visible ?_ ?_ first ?_ <;> rw [stop]
    · exact Nat.lt_add_of_pos_right (by decide)
    · omega
    · exact last
  next spans stop found =>
    obtain ⟨piece, member, unread⟩ := mapM_error ((map_eq_error_iff _ _ _).mp failed)
    have ends := endsAt_of_cut window position position _ found
    have inside : stop ≤ window.stop := Nat.le_of_add_right_le (Keyword.le_stop_of_matchesAt ends)
    have listed := listed_of_cut window position position (Nat.le_refl _) _ found
    have marks := Window.marks_of_mem_trimmed
      (fun span member => (listed.within span member).2.trans inside) piece member
    have within := (listed.trimmed window).within piece member
    exact readItem_highlights marks (within.2.trans inside) unread

end Projection

/-! ### Clauses -/

section

variable {segment : Clause.Segment} {position : Nat} (stands : segment.Stands window position)
include stands

theorem GroupBy.ofSegment_highlights (failed : ofSegment catalog window segment = .error error) :
    error.Highlights window.chars.toList := by
  rw [ofSegment] at failed
  split at failed
  next =>
    cases failed
    exact ParseError.highlights_locate stands.keyword
  next nonempty =>
    exact Column.known_highlights (stands.marks ((Bool.not_eq_true _).mp nonempty))
      ((map_eq_error_iff _ _ _).mp failed)

theorem OrderBy.ofSegment_highlights (failed : ofSegment catalog window segment = .error error) :
    error.Highlights window.chars.toList := by
  rw [ofSegment] at failed
  dsimp only at failed
  split at failed
  next =>
    cases failed
    exact ParseError.highlights_locate stands.keyword
  next nonempty =>
    have marks := (splitDirection_marks ((Bool.not_eq_true _).mp nonempty) stands.inside).1
    exact Column.known_highlights marks ((map_eq_error_iff _ _ _).mp failed)

/-- The first word of a body that is not empty marks visible text. -/
theorem Limit.firstWord_marks (nonempty : (firstWord window segment.body).isEmpty = false) :
    (firstWord window segment.body).Marks window.chars.toList := by
  have filled : segment.body.isEmpty = false := by
    by_contra empty
    have same : segment.body.start = segment.body.stop := by
      simpa [Span.isEmpty] using empty
    simp [firstWord, firstIn, searchUp, Span.isEmpty, Span.between, same] at nonempty
  have marks := stands.marks filled
  obtain ⟨c, here, visible⟩ := marks.first
  exact (Window.marks_word marks.nonempty stands.inside
    (Window.blankAt_of_visible here visible)).2

theorem Limit.ofSegment_highlights (failed : ofSegment window segment = .error error) :
    error.Highlights window.chars.toList := by
  rw [ofSegment] at failed
  split at failed
  next =>
    cases failed
    exact ParseError.highlights_locate stands.keyword
  next nonempty =>
    have marks := Limit.firstWord_marks stands ((Bool.not_eq_true _).mp nonempty)
    cases refused : ofWord (window.slice (firstWord window segment.body).start
        (firstWord window segment.body).stop) with
    | ok limit => rw [refused] at failed; cases failed
    | error cause =>
      rw [refused] at failed
      cases failed
      exact ParseError.highlights_locate marks

/-- A predicate that cannot be read is highlighted, or its label if that is not known. -/
theorem Filter.ofSegment_highlights (failed : ofSegment catalog window segment = .error error) :
    error.Highlights window.chars.toList := by
  obtain ⟨piece, member, unread⟩ := mapM_error failed
  obtain ⟨listed, marked⟩ := predicates_marks stands.inside
  have marks := marked piece member
  rw [ofSpan] at unread
  split at unread
  next predicate found =>
    obtain ⟨c, here, visible⟩ := marks.first
    obtain ⟨opening, placed⟩ := predicate?_stands (Window.blankAt_of_visible here visible)
      ((listed.within piece member).2.trans stands.inside) found
    rw [ofPredicate] at unread
    split at unread
    next => cases unread
    next =>
      cases unread
      exact ParseError.highlights_locate placed.label
  next =>
    cases unread
    exact ParseError.highlights_locate marks

end

namespace Query

theorem addClause_highlights {query : Query} {clause : Clause} {segment : Clause.Segment}
    {position : Nat} (taken : Clause.segment? window clause position = some segment)
    (failed : addClause catalog window query clause segment = .error error) :
    error.Highlights window.chars.toList := by
  have stands := Clause.segment?_stands taken
  -- what a clause adds to the query cannot fail, only the reading of its segment can
  cases clause with
  | groupBy => exact GroupBy.ofSegment_highlights stands ((map_eq_error_iff _ _ _).mp failed)
  | orderBy => exact OrderBy.ofSegment_highlights stands ((map_eq_error_iff _ _ _).mp failed)
  | limit => exact Limit.ofSegment_highlights stands ((map_eq_error_iff _ _ _).mp failed)
  | withFilter | whereFilter =>
    exact Filter.ofSegment_highlights stands ((map_eq_error_iff _ _ _).mp failed)

/-- Where the reader of clauses stops, a clause is there whose keyword or body is highlighted. -/
theorem Halts.highlights {position start : Nat} (halts : Halts catalog window position error)
    (going : position < window.stop) (fits : Pause.Fits window ⟨start, position⟩) :
    error.Highlights window.chars.toList := by
  obtain ⟨here, detects, stands⟩ := fits.exists_segment (Nat.not_le.mpr going)
  -- a clause does begin here, so the reader stops at one that is repeated or cannot be read
  cases halts with
  | undetected detected => rw [detects] at detected; cases detected
  | repeated clause detected raised =>
    have same : here = clause := Option.some.inj (detects.symm.trans detected)
    rw [raised]
    exact ParseError.highlights_locate (Clause.keyword_marks (same ▸ stands))
  | absent clause detected taken =>
    have same : here = clause := Option.some.inj (detects.symm.trans detected)
    rw [Clause.segment?, if_pos (same ▸ stands)] at taken
    cases taken
  | refused query clause segment taken raised => exact addClause_highlights taken raised

/-! ### Whole questions -/

/-- The first word of a question that does not begin with `get`. -/
theorem missingGet_highlights {position : Nat} (inside : position < window.stop)
    (visible : window.blankAt position = false) :
    (missingGet window position).Highlights window.chars.toList := by
  obtain ⟨longer, marks⟩ := Window.marks_word inside (Nat.le_refl _) visible
  apply ParseError.highlights_locate
  rw [Nat.max_eq_left longer]
  exact marks

theorem read_highlights {question : String}
    (visible : ∃ c ∈ question.toList, Text.isBlank c = false)
    (failed : (read catalog (Window.ofText question) (Window.ofText question).start).outcome =
      .error error) : error.Highlights question.toList := by
  have nonempty := Window.start_lt_stop visible
  have first := Window.blankAt_start visible
  have start : (Window.ofText question).skipAhead (Window.ofText question).start =
      (Window.ofText question).start := Window.skipBlanks_of_visible first nonempty
  unfold read at failed
  rw [start] at failed
  dsimp only at failed
  split at failed
  next opened =>
    split at failed
    next unread =>
      cases failed
      exact Projection.read_highlights opened unread
    next items listed =>
      -- behind ` from ` there is a scope, and it is read up to the first clause
      have further := skipAhead_lt_stop nonempty (Projection.endsAt_of_read listed)
      simp only [Scope.read, if_neg (Nat.not_le.mpr further)] at failed
      obtain ⟨last, ⟨start, fits⟩, going, halts⟩ := readClauses_error catalog
        (Window.ofText question) (fun position => ∃ start, Pause.Fits _ ⟨start, position⟩)
        (fun _ _ _ _ taken => ⟨_, Clause.segment?_next taken ▸ fits_after_segment⟩)
        _ _ _ _ ⟨_, fits_after_segment⟩ ((map_eq_error_iff _ _ _).mp failed)
      exact halts.highlights going fits
  next =>
    cases failed
    exact missingGet_highlights nonempty first

/-- If a question that shows anything cannot be read, the error highlights visible text of it: from
the first visible character on and up to the last one. The failure lies where the error begins. -/
theorem highlights_of_parse_error {catalog : Catalog} {question : String} {error : ParseError}
    (visible : ∃ c ∈ question.toList, Text.isBlank c = false)
    (failed : parse catalog question = .error error) :
    error.Highlights question.toList ∧
      (question.toList.takeWhile Text.isBlank).length ≤ error.span.start ∧
      error.text ≠ "" ∧
      (Failure.question error).position? = some error.span.start ∧
      ∀ engine : Engine, engine.catalog = catalog →
        engine.ask question = .error (.question error) := by
  have highlights : error.Highlights question.toList := read_highlights visible failed
  obtain ⟨c, here, shown⟩ := highlights.marks.first
  refine ⟨highlights, Text.leading_le here shown, ?_, rfl, ?_⟩
  · intro empty
    have covered : error.span.charsOf question.toList = [] := by
      rw [← highlights.text, empty]
      rfl
    have inside := (List.getElem?_eq_some_iff.mp here).1
    have nonempty := highlights.marks.nonempty
    rw [Span.charsOf, List.take_eq_nil_iff, List.drop_eq_nil_iff, Span.length] at covered
    omega
  · rintro engine rfl
    exact Engine.ask_of_unread failed

/-- A limit that is no number, behind blanks and before more of them. -/
theorem highlights_of_parse_error_limit : ∃ error,
    parse .standard "  Get role from all limit  ten rows " = .error error ∧
      error.span = .between 27 30 ∧
      error.Highlights "  Get role from all limit  ten rows ".toList := by
  have read : parse .standard "  Get role from all limit  ten rows " =
      .error ⟨.limitNotANumber, .between 27 30, "ten"⟩ := by decide +kernel
  have visible : ∃ c ∈ "  Get role from all limit  ten rows ".toList, Text.isBlank c = false :=
    ⟨'G', by decide, by decide⟩
  exact ⟨_, read, rfl, (highlights_of_parse_error visible read).1⟩

end Query
end FleetQuery
