import FleetQuery.Proofs.Bounds.Clauses
import FleetQuery.Proofs.Question.Clauses
import FleetQuery.Proofs.Question.Pauses

/-!
# Questions read within bounds

No reader asks for a character outside the text, moves the cursor back or takes it past the end of
the window. A clause takes at least its keyword, so the clauses of a question are read in at most a
fifth as many rounds as the window has positions before its end. Main statement:
`readers_stay_inside`.
-/
namespace FleetQuery

/-! ### Where the readers stop -/

variable {window : Window} {position : Nat}

theorem Projection.bounds_of_cut (inside : position ≤ window.stop) (pivot : Nat) :
    ∀ found ∈ cut window pivot position, position ≤ found.2 ∧ found.2 ≤ window.stop := by
  fun_induction cut window pivot position with
  | case1 => simp
  | case2 pivot position going ends => simpa using inside
  | case3 pivot position going unfinished comma ih =>
    intro found member
    obtain ⟨later, cut, rfl⟩ := Option.map_eq_some_iff.mp member
    have bounds := ih (by omega) later cut
    exact ⟨Nat.le_of_succ_le bounds.1, bounds.2⟩
  | case4 pivot position going unfinished plain joined next ih =>
    intro found member
    obtain ⟨later, cut, rfl⟩ := Option.map_eq_some_iff.mp member
    have forward : position < next := lt_afterSeparator window position
    have bounds := ih (Guarded.afterSeparator_le joined) later cut
    exact ⟨Nat.le_trans (Nat.le_of_lt forward) bounds.1, bounds.2⟩
  | case5 pivot position going unfinished plain whole ih =>
    intro found member
    have bounds := ih (by omega) found member
    exact ⟨Nat.le_of_succ_le bounds.1, bounds.2⟩

theorem Projection.read_bounds (catalog : Catalog) (inside : position ≤ window.stop) :
    position ≤ (read catalog window position).position ∧
      (read catalog window position).position ≤ window.stop := by
  rw [read]
  cases cutting : cut window position position with
  | none => exact ⟨Nat.le_max_left .., Nat.max_le.mpr ⟨inside, Nat.le_refl _⟩⟩
  | some found => exact bounds_of_cut inside position found cutting

/-- Behind a list of items there is room for the ` from ` that ends it. -/
theorem Projection.room_of_read {catalog : Catalog} {window : Window} {position : Nat}
    {items : Projection} (listed : (read catalog window position).outcome = .ok items) :
    (read catalog window position).position + Keyword.scopeOpening.length ≤ window.stop :=
  Keyword.le_stop_of_matchesAt (endsAt_of_read listed)

/-- The cursor behind a text that begins inside the window. -/
theorem Clause.skipped_bounds {start : Nat} (inside : start ≤ window.stop) :
    start ≤ window.skipAhead (window.jumpTo (segmentEnd window start)) ∧
      window.skipAhead (window.jumpTo (segmentEnd window start)) ≤ window.stop := by
  have stop := le_segmentEnd window start inside
  have jumped : window.jumpTo (segmentEnd window start) = segmentEnd window start :=
    Nat.min_eq_left (segmentEnd_le window start)
  rw [jumped, Window.skipAhead]
  exact ⟨Nat.le_trans stop (window.le_skipBlanks _ _),
    Window.skipBlanks_le (segmentEnd_le window start)⟩

theorem Scope.read_bounds (catalog : Catalog) (window : Window) (position : Nat) :
    window.jump position Keyword.scopeOpening.length ≤ (read catalog window position).position ∧
      (read catalog window position).position ≤ window.stop := by
  have onward := window.le_skipBlanks (window.jump position Keyword.scopeOpening.length) window.stop
  have start : window.skipAhead (window.jump position Keyword.scopeOpening.length) ≤ window.stop :=
    Window.skipBlanks_le (Nat.min_le_right ..)
  simp only [read]
  split
  next => exact ⟨onward, start⟩
  next =>
    have bounds := Clause.skipped_bounds start
    dsimp only
    exact ⟨Nat.le_trans onward bounds.1, bounds.2⟩

theorem Clause.segment?_bounds {clause : Clause} {segment : Segment}
    (taken : segment? window clause position = some segment) :
    position + clause.keyword.length ≤ segment.next ∧ segment.next ≤ window.stop := by
  have start : window.jump position clause.keyword.length ≤ window.stop := Nat.min_le_right ..
  refine ⟨segment_next taken, ?_⟩
  rw [segment?_next taken]
  exact (skipped_bounds start).2

/-- A reading of clauses or of a question goes forward and stays in the window, and it reaches the end
if it succeeds. -/
structure ReachesEnd {α : Type} (window : Window) (position : Nat) (reading : Reading α) : Prop where
  forward : position ≤ reading.position
  held : reading.position ≤ window.stop
  finished : ∀ result, reading.outcome = .ok result → reading.position = window.stop

/-- A reading that failed inside the window. -/
theorem reachesEnd_error {α : Type} {start : Nat} (onward : start ≤ position)
    (inside : position ≤ window.stop) (error : ParseError) :
    ReachesEnd window start (⟨.error error, position⟩ : Reading α) :=
  ⟨onward, inside, fun _ missing => by cases missing⟩

theorem Query.readClauses_reachesEnd (catalog : Catalog) (query : Query) (seen : List Clause)
    (inside : position ≤ window.stop) :
    ReachesEnd window position (readClauses catalog window query seen position) := by
  fun_induction readClauses catalog window query seen position with
  | case1 query seen position finished => exact ⟨Nat.le_refl _, inside, fun _ _ => by dsimp only; omega⟩
  | case2 query seen position going undetected =>
    exact reachesEnd_error (Nat.le_refl _) inside _
  | case3 query seen position going clause detected repeated =>
    exact reachesEnd_error (Nat.le_refl _) inside _
  | case4 query seen position going clause detected fresh absent =>
    exact reachesEnd_error (Nat.le_refl _) inside _
  | case5 query seen position going clause detected fresh segment taken error added =>
    have bounds := Clause.segment?_bounds taken
    exact reachesEnd_error (by omega) bounds.2 error
  | case6 query seen position going clause detected fresh segment taken extended added ih =>
    have bounds := Clause.segment?_bounds taken
    obtain ⟨forward, held, finished⟩ := ih bounds.2
    exact ⟨Nat.le_trans (by omega) forward, held, finished⟩

theorem Query.read_reachesEnd (catalog : Catalog) (inside : position ≤ window.stop) :
    ReachesEnd window position (read catalog window position) := by
  have onward : position ≤ window.skipAhead position := window.le_skipBlanks _ _
  have start : window.skipAhead position ≤ window.stop := Window.skipBlanks_le inside
  have list : window.jump (window.skipAhead position) (Keyword.get.length - 1) ≤ window.stop :=
    Nat.min_le_right ..
  have later : window.skipAhead position ≤
      window.jump (window.skipAhead position) (Keyword.get.length - 1) :=
    Nat.le_min.mpr ⟨Nat.le_add_right .., start⟩
  -- each part is read from where the part before it stopped
  have items := Projection.read_bounds catalog list
  simp only [read]
  generalize Projection.read catalog window _ = projection at items ⊢
  have scope := Scope.read_bounds catalog window projection.position
  have opened : projection.position ≤
      window.jump projection.position Keyword.scopeOpening.length :=
    Nat.le_min.mpr ⟨Nat.le_add_right .., items.2⟩
  generalize Scope.read catalog window _ = selection at scope ⊢
  split
  next =>
    split
    next error _ => exact reachesEnd_error (by omega) items.2 error
    next =>
      split
      next error _ => exact reachesEnd_error (by omega) scope.2 error
      next selected warnings _ =>
        obtain ⟨forward, held, finished⟩ :=
          readClauses_reachesEnd catalog (ofParts _ selected warnings) [] scope.2
        refine ⟨by dsimp only; omega, held, fun result succeeded => ?_⟩
        obtain ⟨query, read, _⟩ := (map_eq_ok_iff _ _ _).mp succeeded
        exact finished query read
  next => exact reachesEnd_error onward start _

/-! ### Reading with checks -/

/-- What a reader does from a position of the window: with all checks it is the same reader, and the
cursor goes forward and stays in the window. -/
structure StaysInside {α : Type} (window : Window) (position : Nat)
    (checked : Option (Reading α)) (reading : Reading α) : Prop where
  same : checked = some reading
  forward : position ≤ reading.position
  held : reading.position ≤ window.stop

/-- A reader of clauses takes at least the keyword where it succeeds. -/
structure TakesKeyword {α : Type} (window : Window) (position : Nat) (clause : Clause)
    (checked : Option (Reading α)) (reading : Reading α) : Prop
    extends StaysInside window position checked reading where
  keyword : ∀ result, reading.outcome = .ok result →
    position + clause.keyword.length ≤ reading.position

theorem takesKeyword_take {α : Type} {clause : Clause} {checked : Option (Reading α)}
    {read : Clause.Segment → Except ParseError α} (inside : position ≤ window.stop)
    (same : checked = some (Clause.take window clause position read)) :
    TakesKeyword window position clause checked (Clause.take window clause position read) := by
  unfold Clause.take at same ⊢
  cases taken : Clause.segment? window clause position with
  | none =>
    rw [taken] at same
    exact { same, forward := Nat.le_refl _, held := inside, keyword := fun _ missing => by cases missing }
  | some segment =>
    rw [taken] at same
    have bounds := Clause.segment?_bounds taken
    exact { same, forward := by dsimp only; omega, held := bounds.2, keyword := fun _ _ => bounds.1 }

namespace Guarded

/-- Reads the clause at `position` into the query. -/
def readClause (catalog : Catalog) (window : Window) (query : Query) (position : Nat) :
    Clause → Option (Reading Query)
  | .groupBy => do
    let reading ← readGroupBy catalog window position
    return ⟨reading.outcome.map fun groupBy => { query with groupBy := some groupBy },
      reading.position⟩
  | .orderBy => do
    let reading ← readOrderBy catalog window position
    return ⟨reading.outcome.map fun orderBy => { query with orderBy := some orderBy },
      reading.position⟩
  | .limit => do
    let reading ← readLimit window position
    return ⟨reading.outcome.map fun limit => { query with limit := some limit }, reading.position⟩
  | .withFilter | .whereFilter => do
    let reading ← readFilters catalog window position
    return ⟨reading.outcome.map fun filters =>
      { query with
        filters := query.filters ++ filters
        warnings := query.warnings ++ filters.filterMap Filter.warning? }, reading.position⟩

/-- The filter clause that is tried is the one that was detected. -/
theorem clauseAt_of_detect? {clause : Clause} (detected : Clause.detect? window position = some clause)
    (filters : clause = .withFilter ∨ clause = .whereFilter) :
    Filter.clauseAt window position = clause := by
  have stands := Clause.matchesAt_of_detect? detected
  rcases filters with rfl | rfl
  · rw [Filter.clauseAt, if_pos stands]
  · rw [Filter.clauseAt, if_neg]
    intro other
    -- the keyword `with` is tried before `where`
    simp only [Clause.detect?, Clause.all, List.find?_cons, other] at detected
    repeat' split at detected
    all_goals cases detected

theorem readClause_eq (catalog : Catalog) (query : Query) {clause : Clause}
    {segment : Clause.Segment} (inside : position ≤ window.stop)
    (detected : Clause.detect? window position = some clause)
    (taken : Clause.segment? window clause position = some segment) :
    readClause catalog window query position clause =
      some ⟨query.addClause catalog window clause segment, segment.next⟩ := by
  have filters := clauseAt_of_detect? detected
  cases clause <;>
    simp [readClause, readGroupBy_eq, readOrderBy_eq, readLimit_eq, readFilters_eq, inside,
      GroupBy.read, OrderBy.read, Limit.read, Filter.read, Clause.take, taken, filters,
      Query.addClause]

def unsupported (window : Window) (position : Nat) : Option ParseError := do
  let beginning ← chars window position window.stop
  locate window (.unsupportedText (String.ofList (beginning.take 20)))
    (.between position window.stop)

/-- Reads clauses up to the end of the window, in at most so many rounds. -/
def readClauses (catalog : Catalog) (window : Window) (rounds : Nat) (query : Query)
    (seen : List Clause) (position : Nat) : Option (Reading Query) :=
  if window.stop ≤ position then some ⟨.ok query, position⟩
  else
    match rounds with
    | 0 => none
    | rounds + 1 => do
      match ← detect? window position with
      | none => return ⟨.error (← unsupported window position), position⟩
      | some clause =>
        if clause ∈ seen then
          let error ← locate window (.repeatedClause clause.name)
            (.between position (position + clause.name.length))
          return ⟨.error error, position⟩
        else
          let reading ← readClause catalog window query position clause
          match reading.outcome with
          | .error error => return ⟨.error error, reading.position⟩
          | .ok extended =>
            if position + clause.keyword.length ≤ reading.position then
              readClauses catalog window rounds extended
                (if clause.isRepeatable then seen else clause :: seen) reading.position
            else none

/-- Reads a question from `position` on, with at most so many rounds for its clauses. -/
def readQuery (catalog : Catalog) (window : Window) (rounds position : Nat) :
    Option (Reading Query) := do
  let start ← skipAhead window position
  if ← matchesAt .get window start then
    let list ← jump window start (Keyword.get.length - 1)
    let projection ← readProjection catalog window list
    match projection.outcome with
    | .error error => return ⟨.error error, projection.position⟩
    | .ok items =>
      let scope ← readScope catalog window projection.position
      match scope.outcome with
      | .error error => return ⟨.error error, scope.position⟩
      | .ok (selection, warnings) =>
        let query ← readClauses catalog window rounds (.ofParts items selection warnings) []
          scope.position
        return ⟨query.outcome.map Query.withShapeWarnings, query.position⟩
  else
    let blank ← firstIn start window.stop (blankAt window)
    let wordEnd := blank.getD window.stop
    let error ← locate window .missingGet (.between start (max wordEnd (start + 1)))
    return ⟨.error error, start⟩

theorem five_le_keyword_length (clause : Clause) : 5 ≤ clause.keyword.length := by
  cases clause <;> decide

/-- Every round takes at least five characters, so the rounds last up to the end of the window. -/
theorem readClauses_eq (catalog : Catalog) (rounds : Nat) (query : Query) (seen : List Clause)
    (inside : position ≤ window.stop) (enough : window.stop ≤ position + 5 * rounds) :
    readClauses catalog window rounds query seen position =
      some (Query.readClauses catalog window query seen position) := by
  -- on the rounds that are left, which are enough for the characters that are left
  induction rounds generalizing query seen position with
  | zero =>
    have finished : window.stop ≤ position := enough
    rw [readClauses, if_pos finished, Query.readClauses_of_end catalog window query seen position
      finished]
  | succ rounds ih =>
    rw [readClauses, Query.readClauses_eq]
    split
    next => rfl
    next going =>
      rw [detect?_eq, Option.bind_eq_bind, Option.bind_some]
      cases detected : Clause.detect? window position with
      | none => simp [unsupported, chars_eq, locate_eq, Clause.unsupported]
      | some clause =>
        by_cases repeated : clause ∈ seen
        · simp [repeated, locate_eq]
        · have stands := Clause.matchesAt_of_detect? detected
          obtain ⟨segment, taken⟩ : ∃ segment, Clause.segment? window clause position =
              some segment := by simp [Clause.segment?, stands]
          have bounds := Clause.segment?_bounds taken
          -- one round less, and at least five characters
          have five := five_le_keyword_length clause
          simp only [repeated, if_false, taken,
            readClause_eq catalog query inside detected taken, Option.bind_eq_bind,
            Option.bind_some]
          cases query.addClause catalog window clause segment with
          | error error => rfl
          | ok extended =>
            dsimp only
            rw [if_pos bounds.1]
            exact ih extended _ bounds.2 (by omega)

theorem readQuery_eq (catalog : Catalog) (inside : position ≤ window.stop) :
    readQuery catalog window (window.stop / 5) position =
      some (Query.read catalog window position) := by
  have start : window.skipAhead position ≤ window.stop := Window.skipBlanks_le inside
  have list : window.jump (window.skipAhead position) (Keyword.get.length - 1) ≤ window.stop :=
    Nat.min_le_right ..
  rw [readQuery, skipAhead_eq inside]
  simp only [matchesAt_eq, Option.bind_eq_bind, Option.bind_some, Query.read]
  cases begins : Keyword.get.matchesAt window (window.skipAhead position) with
  | false => simp [firstIn_eq (blankAt_below window.stop_le), locate_eq, Query.missingGet]
  | true =>
    have bounds := Projection.read_bounds catalog list
    have room := @Projection.room_of_read catalog window
      (window.jump (window.skipAhead position) (Keyword.get.length - 1))
    simp only [if_true, jump_eq start, readProjection_eq catalog list, Option.bind_some]
    generalize Projection.read catalog window _ = projection at bounds room ⊢
    obtain ⟨outcome, listed⟩ := projection
    cases outcome with
    | error error => rfl
    | ok items =>
      have fits : listed + 6 ≤ window.stop := room rfl
      have reached := Scope.read_bounds catalog window listed
      rw [Window.jump, show Keyword.scopeOpening.length = 6 from rfl, Nat.min_eq_left fits]
        at reached
      simp only [readScope_eq catalog bounds.2, Option.bind_some]
      generalize Scope.read catalog window listed = scope at reached ⊢
      obtain ⟨outcome, opened⟩ := scope
      cases outcome with
      | error error => rfl
      | ok selected =>
        -- the cursor is behind ` from `, so a fifth of the window is enough
        have enough : window.stop ≤ opened + 5 * (window.stop / 5) := by
          have behind : listed + 6 ≤ opened := reached.1
          omega
        dsimp only
        rw [readClauses_eq catalog _ _ _ reached.2 enough]
        rfl

end Guarded

/-- Reading from any position of any window, no reader asks for a character outside the text, moves
the cursor back or takes it past the end of the window: the readers that check this do the same. A
clause that is read takes at least its keyword, the clauses of a question are read in at most a fifth
as many rounds as the window has positions before its end, and a question that is read to a query is
read up to the end of the window. -/
theorem readers_stay_inside (catalog : Catalog) (window : Window) (position : Nat)
    (inside : position ≤ window.stop) :
    StaysInside window position (Guarded.readProjection catalog window position)
      (Projection.read catalog window position) ∧
    StaysInside window position (Guarded.readScope catalog window position)
      (Scope.read catalog window position) ∧
    TakesKeyword window position (Filter.clauseAt window position)
      (Guarded.readFilters catalog window position) (Filter.read catalog window position) ∧
    TakesKeyword window position .groupBy (Guarded.readGroupBy catalog window position)
      (GroupBy.read catalog window position) ∧
    TakesKeyword window position .orderBy (Guarded.readOrderBy catalog window position)
      (OrderBy.read catalog window position) ∧
    TakesKeyword window position .limit (Guarded.readLimit window position)
      (Limit.read window position) ∧
    StaysInside window position (Guarded.readQuery catalog window (window.stop / 5) position)
      (Query.read catalog window position) ∧
    ∀ query, (Query.read catalog window position).outcome = .ok query →
      (Query.read catalog window position).position = window.stop := by
  have items := Projection.read_bounds catalog inside
  have scope := Scope.read_bounds catalog window position
  have opened : position ≤ window.jump position Keyword.scopeOpening.length :=
    Nat.le_min.mpr ⟨Nat.le_add_right .., inside⟩
  obtain ⟨forward, held, finished⟩ := Query.read_reachesEnd catalog inside
  exact ⟨⟨Guarded.readProjection_eq catalog inside, items.1, items.2⟩,
    ⟨Guarded.readScope_eq catalog inside, Nat.le_trans opened scope.1, scope.2⟩,
    takesKeyword_take inside (Guarded.readFilters_eq catalog inside),
    takesKeyword_take inside (Guarded.readGroupBy_eq catalog inside),
    takesKeyword_take inside (Guarded.readOrderBy_eq catalog inside),
    takesKeyword_take inside (Guarded.readLimit_eq inside),
    ⟨Guarded.readQuery_eq catalog inside, forward, held⟩, finished⟩

/-- A window that ends before its text does. -/
def cutShort : Window :=
  (Window.ofText "  get role from all with role starts with \"a\" limit 3 and more").withStop 53

/-- From between the blanks in front of the question, the text behind its end is left alone. One round
would be too few for its two clauses. -/
theorem readers_stay_inside_cutShort :
    1 ≤ cutShort.stop ∧ cutShort.stop = 53 ∧ cutShort.chars.size = 62 ∧
    (Guarded.readQuery .standard cutShort (53 / 5) 1).map (fun reading => reading.position) =
      some 53 ∧
    ((Query.read .standard cutShort 1).outcome.map fun query => query.limit) = .ok (some 3) ∧
    (Query.read .standard cutShort 1).position = 53 ∧
    (Guarded.readQuery .standard cutShort 1 1).isNone := by
  have stop : cutShort.stop = 53 := by decide +kernel
  have read : ((Query.read .standard cutShort 1).outcome.map fun query => query.limit) =
      .ok (some 3) := by decide +kernel
  obtain ⟨_, _, _, _, _, _, whole, finished⟩ :=
    readers_stay_inside .standard cutShort 1 (by decide +kernel)
  obtain ⟨query, parsed, _⟩ := (map_eq_ok_iff _ _ _).mp read
  have last := finished query parsed
  rw [stop] at last whole
  refine ⟨by decide +kernel, stop, by decide +kernel, ?_, read, last, by decide +kernel⟩
  rw [whole.same, Option.map_some, last]

end FleetQuery
