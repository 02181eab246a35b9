import FleetQuery.Proofs.Question.Resolution
import FleetQuery.Proofs.Question.Segments

/-!
# Pauses of the reader of clauses

A segment ends where a clause begins, and the clause that is found there is the one that ended it. So
whenever the reader of clauses asks whether the question is over, it is at the end or has a clause
before it, and no question fails for a text that opens no clause. Main statement:
`parse_pauses_at_clauses`.
-/
namespace FleetQuery

/-! ### Where segments end -/

namespace Clause

variable {window : Window} {start position : Nat} {clause : Clause}

theorem findBoundary?_eq_some (found : findBoundary? window start = some (position, clause)) :
    start ≤ position ∧ position < window.stop ∧ boundaryAt? window position = some clause := by
  rw [findBoundary?, Option.bind_eq_some_iff] at found
  obtain ⟨first, searched, found⟩ := found
  rw [Option.map_eq_some_iff] at found
  obtain ⟨opened, begins, same⟩ := found
  cases same
  have bounds := firstIn_bounds searched
  exact ⟨bounds.1, bounds.2, begins⟩

/-- The clause that begins after a blank is detected right behind it. -/
theorem detect?_of_boundaryAt? (begins : boundaryAt? window position = some clause) :
    window.skipAhead position = position + 1 ∧
      detect? window (position + 1) = some clause := by
  have here := List.find?_some begins
  rw [isBoundaryAt, Bool.and_eq_true] at here
  have inside := Keyword.le_stop_of_matchesAt here.1
  obtain ⟨before, rest, rfl, reads⟩ := window.exists_reads (Nat.le_of_add_right_le inside)
  have spelled := (Keyword.matchesAt_iff clause.boundary_isPlain rfl reads).mp here.1
  obtain ⟨more, rfl⟩ := exists_space_of_begins spelled
  -- what follows the blank is the keyword, in any case
  obtain ⟨lowered, split⟩ := (List.cons_prefix_cons.mp spelled).2
  obtain ⟨opening, after, rfl, opens, _⟩ := List.map_eq_append_iff.mp split.symm
  have detected : detect? window (before ++ [' ']).length = some clause :=
    detect?_eq_some reads.tail opens
  rw [List.length_append, List.length_singleton] at detected
  refine ⟨?_, detected⟩
  obtain ⟨c, letters, rfl⟩ : ∃ c letters, opening = c :: letters := by
    cases opening with
    | nil => cases clause <;> cases opens
    | cons c letters => exact ⟨c, letters, rfl⟩
  apply skipAhead_over_space reads
  rw [List.map_cons] at opens
  rw [← Text.isBlank_toLower]
  cases clause <;> exact (List.cons.inj opens).1 ▸ rfl

/-- The reader goes on where the text of a clause ends. -/
theorem segment?_next {segment : Segment} (taken : segment? window clause position = some segment) :
    segment.next = window.skipAhead (window.jumpTo
      (segmentEnd window (window.jump position clause.keyword.length))) := by
  simp only [segment?, Option.ite_none_right_eq_some, Option.some.injEq] at taken
  obtain ⟨_, rfl⟩ := taken
  -- the two sides are the same text, and their values are not asked for
  dsimp only

end Clause

namespace Query

/-- A moment at which the reader of clauses asks whether the question is over. -/
structure Pause where
  /-- Where the text that was read last begins. -/
  segmentStart : Nat
  position : Nat
deriving DecidableEq

/-- Whether a pause is at the end of the window if no clause begins in the text that was read last,
and otherwise right behind the blank before the first one, where that clause is detected. -/
def Pause.Fits (window : Window) (pause : Pause) : Prop :=
  match Clause.findBoundary? window pause.segmentStart with
  | none => pause.position = window.stop
  | some (boundary, clause) =>
    pause.position = boundary + 1 ∧ Clause.detect? window pause.position = some clause

/-- The pause after a segment. -/
theorem fits_after_segment {window : Window} {start : Nat} :
    Pause.Fits window
      ⟨start, window.skipAhead (window.jumpTo (Clause.segmentEnd window start))⟩ := by
  simp only [Pause.Fits, Clause.segmentEnd]
  cases found : Clause.findBoundary? window start with
  | none =>
    simp only [Window.jumpTo, Nat.min_self, Window.skipAhead]
    exact Window.skipBlanks_of_le (Nat.le_refl _)
  | some boundary =>
    obtain ⟨position, clause⟩ := boundary
    obtain ⟨_, inside, begins⟩ := Clause.findBoundary?_eq_some found
    obtain ⟨skipped, detected⟩ := Clause.detect?_of_boundaryAt? begins
    simp only [Window.jumpTo, Nat.min_eq_left (Nat.le_of_lt inside), skipped, detected, and_self]

/-! ### The readers with a record of pauses -/

/-- The reader of clauses with its pauses, this one first. -/
def readClausesRecorded (catalog : Catalog) (window : Window) (query : Query) (seen : List Clause)
    (pause : Pause) : Reading Query × List Pause :=
  let position := pause.position
  if window.stop ≤ position then (⟨.ok query, position⟩, [pause])
  else
    match Clause.detect? window position with
    | none => (⟨.error (Clause.unsupported window position), position⟩, [pause])
    | some clause =>
      if clause ∈ seen then
        (⟨.error (.locate window (.repeatedClause clause.name)
          (.between position (position + clause.name.length))), position⟩, [pause])
      else
        match _found : Clause.segment? window clause position with
        | none => (⟨.error (Clause.missing window clause position), position⟩, [pause])
        | some segment =>
          match addClause catalog window query clause segment with
          | .error error => (⟨.error error, segment.next⟩, [pause])
          | .ok extended =>
            let later := readClausesRecorded catalog window extended
              (if clause.isRepeatable then seen else clause :: seen)
              ⟨window.jump position clause.keyword.length, segment.next⟩
            (later.1, pause :: later.2)
termination_by window.stop - pause.position
decreasing_by
  have next := Clause.segment_next _found
  have := Clause.keyword_length_pos clause
  omega

/-- The reader of questions with the pauses of its reader of clauses. -/
def readRecorded (catalog : Catalog) (window : Window) (position : Nat) :
    Reading Query × List Pause :=
  let start := window.skipAhead position
  if Keyword.get.matchesAt window start then
    let projection := Projection.read catalog window (window.jump start (Keyword.get.length - 1))
    match projection.outcome with
    | .error error => (⟨.error error, projection.position⟩, [])
    | .ok items =>
      let scope := Scope.read catalog window projection.position
      match scope.outcome with
      | .error error => (⟨.error error, scope.position⟩, [])
      | .ok (selection, warnings) =>
        let query :=
          readClausesRecorded catalog window (ofParts items selection warnings) []
            ⟨window.skipAhead (window.jump projection.position Keyword.scopeOpening.length),
              scope.position⟩
        (⟨query.1.outcome.map withShapeWarnings, query.1.position⟩, query.2)
  else (⟨.error (missingGet window start), start⟩, [])

/-- The query of a question with the pauses made on the way. -/
def parseRecorded (catalog : Catalog) (question : String) :
    Except ParseError Query × List Pause :=
  let window := Window.ofText question
  let reading := readRecorded catalog window window.start
  (reading.1.outcome, reading.2)

section

variable (catalog : Catalog) (window : Window)

/-- The record changes nothing about what is read. -/
theorem readClausesRecorded_fst (query : Query) (seen : List Clause) (pause : Pause) :
    (readClausesRecorded catalog window query seen pause).1 =
      readClauses catalog window query seen pause.position := by
  rw [readClauses_eq]
  fun_induction readClausesRecorded catalog window query seen pause with
  | case1 query seen pause position finished => rw [if_pos finished]
  | case2 query seen pause position going undetected => simp [position, going, undetected]
  | case3 query seen pause position going clause detected repeated =>
    simp [position, going, detected, repeated]
  | case4 query seen pause position going clause detected fresh absent =>
    simp [position, going, detected, fresh, absent]
  | case5 query seen pause position going clause detected fresh segment taken error failed =>
    simp [position, going, detected, fresh, taken, failed]
  | case6 query seen pause position going clause detected fresh segment taken extended added later
      ih =>
    rw [← readClauses_eq] at ih
    simp only [position, going, detected, fresh, taken, added, later, if_false]
    exact ih

theorem readRecorded_fst (position : Nat) :
    (readRecorded catalog window position).1 = read catalog window position := by
  unfold readRecorded read
  dsimp only
  split
  next =>
    cases (Projection.read catalog window _).outcome with
    | error error => rfl
    | ok items =>
      dsimp only
      cases (Scope.read catalog window _).outcome with
      | error error => rfl
      | ok found => simp only [readClausesRecorded_fst]
  next => rfl

end

theorem parseRecorded_fst (catalog : Catalog) (question : String) :
    (parseRecorded catalog question).1 = parse catalog question := by
  simp only [parseRecorded, parse, readRecorded_fst]

end Query

/-! ### Causes of errors -/

/-- Whether a cause can be that of a whole question; the others concern parts that are read on their
own. -/
def ParseError.Cause.isOfQuestion : Cause → Bool
  | missingScope | unsupportedText _ | missingClause _ => false
  | _ => true

namespace ParseError

/-- How the messages of whole questions begin. -/
def questionOpenings : List String :=
  ["Questions", "Include", "Unknown field '", "Unknown count column '",
   "Unknown aggregation column '", "Unknown group by column '", "Unknown order by column '",
   "Group", "Order", "Unsupported clause '", "Only one '", "Limit"]

theorem exists_opening {cause : Cause} (raised : cause.isOfQuestion) :
    ∃ opening ∈ questionOpenings, ∃ rest, cause.message = opening ++ rest := by
  cases cause with
  | missingScope | unsupportedText _ | missingClause _ => cases raised
  | missingGet => exact ⟨"Questions", by simp [questionOpenings], " must start with 'Get'.", rfl⟩
  | missingFrom => exact ⟨"Include", by simp [questionOpenings], " a scope using 'from'.", rfl⟩
  | missingGroupColumn => exact ⟨"Group", by simp [questionOpenings], " by requires a column.", rfl⟩
  | missingOrderColumn => exact ⟨"Order", by simp [questionOpenings], " by requires a column.", rfl⟩
  | limitNotANumber => exact ⟨"Limit", by simp [questionOpenings], " must be a number.", rfl⟩
  | negativeLimit =>
    exact ⟨"Limit", by simp [questionOpenings], " must be zero or a positive number.", rfl⟩
  | unsupportedPredicate _ | repeatedClause _ | unknownColumn _ | unknownCountColumn _
  | unknownAggregateColumn _ | unknownGroupColumn _ | unknownOrderColumn _
  | unknownFilterColumn _ =>
    exact ⟨_, by simp [questionOpenings], _, String.append_assoc ..⟩

/-- No message of a whole question begins as one that concerns a part alone. -/
theorem not_prefix_message {cause : Cause} (raised : cause.isOfQuestion) (other : String)
    (apart : ∀ opening ∈ questionOpenings, ¬ opening.toList <+: other.toList ∧
      ¬ other.toList <+: opening.toList) : ¬ other.toList <+: cause.message.toList := by
  intro begins
  obtain ⟨opening, listed, rest, split⟩ := exists_opening raised
  rw [split, String.toList_append] at begins
  rcases List.prefix_or_prefix_of_prefix begins (List.prefix_append _ _) with shorter | longer
  · exact (apart opening listed).2 shorter
  · exact (apart opening listed).1 longer

end ParseError

theorem Projection.readItem_error {catalog : Catalog} {window : Window} {span : Span}
    {error : ParseError} (failed : readItem catalog window span = .error error) :
    error.cause.isOfQuestion := by
  unfold readItem at failed
  split at failed
  next call _ =>
    split at failed
    next => cases failed
    next target _ =>
      rw [(Column.known_eq_error_iff.mp ((map_eq_error_iff _ _ _).mp failed)).2]
      simp only [ParseError.locate, unknownTarget]
      split <;> rfl
  next =>
    rw [(Column.known_eq_error_iff.mp ((map_eq_error_iff _ _ _).mp failed)).2]
    rfl

theorem Projection.read_error {catalog : Catalog} {window : Window} {position : Nat}
    {error : ParseError} (failed : (read catalog window position).outcome = .error error) :
    error.cause.isOfQuestion := by
  unfold read at failed
  split at failed
  next =>
    cases failed
    rfl
  next spans stop _ =>
    obtain ⟨span, _, unread⟩ := mapM_error ((map_eq_error_iff _ _ _).mp failed)
    exact readItem_error unread

theorem Filter.ofSegment_error {catalog : Catalog} {window : Window} {segment : Clause.Segment}
    {error : ParseError} (failed : ofSegment catalog window segment = .error error) :
    error.cause.isOfQuestion := by
  obtain ⟨span, _, unread⟩ := mapM_error failed
  unfold ofSpan at unread
  split at unread
  next =>
    unfold ofPredicate at unread
    dsimp only at unread
    split at unread <;> cases unread
    rfl
  next =>
    cases unread
    rfl

theorem GroupBy.ofSegment_error {catalog : Catalog} {window : Window} {segment : Clause.Segment}
    {error : ParseError} (failed : ofSegment catalog window segment = .error error) :
    error.cause.isOfQuestion := by
  unfold ofSegment at failed
  split at failed
  next =>
    cases failed
    rfl
  next =>
    rw [(Column.known_eq_error_iff.mp ((map_eq_error_iff _ _ _).mp failed)).2]
    rfl

theorem OrderBy.ofSegment_error {catalog : Catalog} {window : Window} {segment : Clause.Segment}
    {error : ParseError} (failed : ofSegment catalog window segment = .error error) :
    error.cause.isOfQuestion := by
  unfold ofSegment at failed
  dsimp only at failed
  split at failed
  next =>
    cases failed
    rfl
  next =>
    rw [(Column.known_eq_error_iff.mp ((map_eq_error_iff _ _ _).mp failed)).2]
    rfl

theorem Limit.ofSegment_error {window : Window} {segment : Clause.Segment} {error : ParseError}
    (failed : ofSegment window segment = .error error) : error.cause.isOfQuestion := by
  unfold ofSegment ofWord at failed
  dsimp only at failed
  -- a word that is missing, no number or negative
  split at failed
  next =>
    cases failed
    rfl
  next =>
    split at failed
    next =>
      cases failed
      rfl
    next =>
      split at failed <;> cases failed
      rfl

namespace Query

theorem addClause_error {catalog : Catalog} {window : Window} {query : Query} {clause : Clause}
    {segment : Clause.Segment} {error : ParseError}
    (failed : addClause catalog window query clause segment = .error error) :
    error.cause.isOfQuestion := by
  cases clause with
  | groupBy => exact GroupBy.ofSegment_error ((map_eq_error_iff _ _ _).mp failed)
  | orderBy => exact OrderBy.ofSegment_error ((map_eq_error_iff _ _ _).mp failed)
  | limit => exact Limit.ofSegment_error ((map_eq_error_iff _ _ _).mp failed)
  | withFilter | whereFilter => exact Filter.ofSegment_error ((map_eq_error_iff _ _ _).mp failed)

end Query

/-! ### The whole reading -/

namespace Query

section

variable {catalog : Catalog} {window : Window}

/-- At a pause before the end a clause is detected, and its keyword stands there. -/
theorem Pause.Fits.exists_segment {pause : Pause} (fits : pause.Fits window)
    (going : ¬ window.stop ≤ pause.position) :
    ∃ clause, Clause.detect? window pause.position = some clause ∧
      clause.keyword.matchesAt window pause.position = true := by
  unfold Pause.Fits at fits
  split at fits
  next => omega
  next boundary clause _ =>
    have stands := List.find?_some fits.2
    exact ⟨clause, fits.2, stands⟩

/-- Every pause fits if the first one does, and no clause is found missing or unknown. -/
theorem readClausesRecorded_fits (catalog : Catalog) (query : Query) (seen : List Clause)
    (pause : Pause) (fits : pause.Fits window) :
    (∀ later ∈ (readClausesRecorded catalog window query seen pause).2, later.Fits window) ∧
      ∀ error, (readClausesRecorded catalog window query seen pause).1.outcome = .error error →
        error.cause.isOfQuestion := by
  fun_induction readClausesRecorded catalog window query seen pause with
  | case1 query seen pause position finished => simpa using fits
  | case2 query seen pause position going undetected =>
    obtain ⟨clause, detected, _⟩ := fits.exists_segment going
    rw [undetected] at detected
    cases detected
  | case3 query seen pause position going clause detected repeated =>
    refine ⟨by simpa using fits, ?_⟩
    rintro error ⟨⟩
    rfl
  | case4 query seen pause position going clause detected fresh absent =>
    obtain ⟨other, detects, stands⟩ := fits.exists_segment going
    cases detected.symm.trans detects
    rw [Clause.segment?, if_pos stands] at absent
    cases absent
  | case5 query seen pause position going clause detected fresh segment taken error failed =>
    refine ⟨by simpa using fits, ?_⟩
    rintro error ⟨⟩
    exact addClause_error failed
  | case6 query seen pause position going clause detected fresh segment taken extended added later
      ih =>
    obtain ⟨kept, causes⟩ := ih (Clause.segment?_next taken ▸ fits_after_segment)
    refine ⟨?_, causes⟩
    intro other member
    rcases List.mem_cons.mp member with rfl | behind
    · exact fits
    · exact kept other behind

/-- Behind ` from ` there is a scope, since a window on a text ends visibly. -/
theorem skipAhead_lt_stop {question : String} {position : Nat}
    (nonempty : (Window.ofText question).start < (Window.ofText question).stop)
    (ends : Projection.endsAt (Window.ofText question) position) :
    (Window.ofText question).skipAhead
      ((Window.ofText question).jump position Keyword.scopeOpening.length) <
        (Window.ofText question).stop := by
  have inside : position + 6 ≤ (Window.ofText question).stop :=
    Keyword.le_stop_of_matchesAt ends
  have spaced : Keyword.scopeOpening.letters = " from".toList ++ [' '] := rfl
  have blank : (Window.ofText question).blankAt (position + 5) = true :=
    Keyword.blankAt_of_matchesAt (by decide) rfl spaced ends
  have visible := Window.blankAt_last nonempty
  have further : position + 6 ≠ (Window.ofText question).stop := by
    intro same
    rw [← same, Nat.add_sub_assoc (by decide)] at visible
    rw [blank] at visible
    cases visible
  have jumped : (Window.ofText question).jump position Keyword.scopeOpening.length = position + 6 :=
    Nat.min_eq_left inside
  rw [jumped]
  exact Window.skipBlanks_lt visible (by omega) (by omega)

theorem readRecorded_fits (catalog : Catalog) (question : String) (position : Nat)
    (inside : (Window.ofText question).start ≤ position) :
    (∀ pause ∈ (readRecorded catalog (Window.ofText question) position).2,
      pause.Fits (Window.ofText question)) ∧
      ∀ error, (readRecorded catalog (Window.ofText question) position).1.outcome = .error error →
        error.cause.isOfQuestion := by
  unfold readRecorded
  dsimp only
  split
  next opened =>
    have room := Keyword.le_stop_of_matchesAt opened
    have skipped := (Window.ofText question).le_skipBlanks position (Window.ofText question).stop
    have nonempty : (Window.ofText question).start < (Window.ofText question).stop := by
      have positive : 0 < Keyword.get.length := by decide
      rw [Window.skipAhead] at room
      omega
    split
    next failed =>
      refine ⟨by simp, ?_⟩
      rintro error ⟨⟩
      exact Projection.read_error failed
    next items listed =>
      have further := skipAhead_lt_stop nonempty (Projection.endsAt_of_read listed)
      simp only [Scope.read, if_neg (Nat.not_le.mpr further)]
      obtain ⟨kept, causes⟩ := readClausesRecorded_fits catalog _ [] _ fits_after_segment
      refine ⟨kept, ?_⟩
      intro error failed
      exact causes error ((map_eq_error_iff _ _ _).mp failed)
  next =>
    refine ⟨by simp, ?_⟩
    rintro error ⟨⟩
    rfl

/-- Whenever the reader of clauses asks whether the question is over, it stands at the end or behind
the blank before the clause that ended the text read last, and detects that clause. So no question
fails for a missing scope, or for text after it that opens no clause. -/
theorem parse_pauses_at_clauses (catalog : Catalog) (question : String) :
    (parseRecorded catalog question).1 = parse catalog question ∧
    (∀ pause ∈ (parseRecorded catalog question).2, pause.Fits (Window.ofText question)) ∧
    ∀ error, parse catalog question = .error error →
      ¬ "Unsupported clause near ".toList <+: error.message.toList ∧
      (∀ clause : Clause, error.message ≠ "Invalid " ++ clause.name) ∧
      error.message ≠ "Provide a scope after 'from'." := by
  obtain ⟨fits, causes⟩ := readRecorded_fits catalog question _ (Nat.le_refl _)
  refine ⟨parseRecorded_fst catalog question, fits, ?_⟩
  intro error failed
  rw [← parseRecorded_fst] at failed
  have raised := causes error failed
  refine ⟨ParseError.not_prefix_message raised "Unsupported clause near " (by decide), ?_, ?_⟩
  · intro clause same
    have whole : error.cause.message = "Invalid " ++ clause.name := same
    apply ParseError.not_prefix_message raised "Invalid " (by decide)
    rw [whole, String.toList_append]
    exact List.prefix_append _ _
  · intro same
    have whole : error.cause.message = "Provide a scope after 'from'." := same
    apply ParseError.not_prefix_message raised "Provide a scope after 'from'." (by decide)
    rw [whole]

/-- The word `with` of a filter brings no pause. -/
theorem parse_sample_pauses :
    (parseRecorded Catalog.standard
      "Get role from all with role starts with \"a\" where role equals \"b\" limit 3").2 =
        [⟨14, 18⟩, ⟨23, 44⟩, ⟨50, 66⟩, ⟨72, 73⟩] ∧
    ∀ pause ∈ (parseRecorded Catalog.standard
      "Get role from all with role starts with \"a\" where role equals \"b\" limit 3").2,
      pause.Fits (Window.ofText
        "Get role from all with role starts with \"a\" where role equals \"b\" limit 3") :=
  ⟨by decide +kernel, (parse_pauses_at_clauses Catalog.standard _).2.1⟩

end

end Query
end FleetQuery
