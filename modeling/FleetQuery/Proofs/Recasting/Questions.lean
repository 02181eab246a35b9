import FleetQuery.Proofs.Recasting.Readers

/-!
# Questions on windows that read alike

Clause by clause both readers go on alike, so a whole question is read alike. Main statement:
`read_alike`.
-/
namespace FleetQuery.Query

variable {recasting : Recasting}

/-! ### Building a query from recast parts -/

theorem query_ofParts (projection : Projection) (scope : Scope) (warnings : List Warning) :
    recasting.query (ofParts projection scope warnings) =
      ofParts (recasting.projection projection) (recasting.scope scope)
        (warnings.map recasting.warning) := rfl

theorem shapeWarnings_query (query : Query) :
    (recasting.query query).shapeWarnings = query.shapeWarnings.map recasting.warning := by
  have aggregate : (recasting.query query).isAggregate = query.isAggregate := by
    simp [isAggregate, Recasting.query]
  rw [shapeWarnings, shapeWarnings, aggregate, List.map_append]
  congr 1
  · cases grouped : query.groupBy with
    | none => simp [Recasting.query, grouped]
    | some groupBy =>
      simp only [Recasting.query, grouped, Option.map_some]
      split <;> rfl
  · split
    next => simp only [Recasting.query, List.map_map]; rfl
    next => rfl

theorem query_withShapeWarnings (query : Query) :
    recasting.query query.withShapeWarnings = (recasting.query query).withShapeWarnings := by
  have warnings : (recasting.query query).shapeWarnings =
      query.shapeWarnings.map recasting.warning := shapeWarnings_query query
  simp only [withShapeWarnings, warnings]
  simp only [Recasting.query, List.map_append]

theorem query_addFilters (query : Query) (filters : List Filter) :
    recasting.query { query with
      filters := query.filters ++ filters
      warnings := query.warnings ++ filters.filterMap Filter.warning? } =
    { recasting.query query with
      filters := (recasting.query query).filters ++ filters.map recasting.filter
      warnings := (recasting.query query).warnings ++
        (filters.map recasting.filter).filterMap Filter.warning? } := by
  have warned : Filter.warning? ∘ recasting.filter =
      fun filter => filter.warning?.map recasting.warning := funext Filter.warning?_filter
  simp only [Recasting.query, List.map_append, List.map_filterMap, List.filterMap_map, warned]

variable {left right : Window} (alike : Window.Alike recasting left right)
include alike

/-! ### Clauses -/

theorem addClause_alike (catalog : Catalog) {other query : Query}
    (same : recasting.still.query other = recasting.query query) (clause : Clause)
    {segment : Clause.Segment} (keyword : left.Covers segment.keyword)
    (body : left.Covers segment.body) :
    recasting.still.outcome recasting.still.query
        (addClause catalog right other clause (recasting.segment segment)) =
      recasting.outcome recasting.query (addClause catalog left query clause segment) := by
  cases clause with
  | groupBy =>
    exact Recasting.outcome_map_alike (GroupBy.ofSegment_alike alike catalog keyword body)
      (h := fun groupBy => { recasting.query query with groupBy := some groupBy })
      (fun groupBy => by rw [← same]; rfl) fun groupBy => rfl
  | orderBy =>
    exact Recasting.outcome_map_alike (OrderBy.ofSegment_alike alike catalog keyword body)
      (h := fun orderBy => { recasting.query query with orderBy := some orderBy })
      (fun orderBy => by rw [← same]; rfl) fun orderBy => rfl
  | limit =>
    exact Recasting.outcome_map_alike (Limit.ofSegment_alike alike keyword body)
      (h := fun limit => { recasting.query query with limit := some limit })
      (fun limit => by rw [← same]; rfl) fun limit => rfl
  | withFilter | whereFilter =>
    exact Recasting.outcome_map_alike (Filter.ofSegment_alike alike catalog body)
      (h := fun filters => { recasting.query query with
        filters := (recasting.query query).filters ++ filters
        warnings := (recasting.query query).warnings ++ filters.filterMap Filter.warning? })
      (fun filters => by rw [← same]; exact query_addFilters other filters)
      (query_addFilters query)

theorem readClauses_alike (catalog : Catalog) {other query : Query}
    (same : recasting.still.query other = recasting.query query) (seen : List Clause)
    (position : Nat) :
    recasting.still.outcome recasting.still.query
        (readClauses catalog right other seen (position + recasting.shift)).outcome =
      recasting.outcome recasting.query
        (readClauses catalog left query seen position).outcome := by
  -- a clause takes at least its keyword, so what is left gets shorter
  induction remaining : left.stop - position using Nat.strongRecOn
    generalizing other query seen position with
  | ind remaining ih =>
    rw [readClauses_eq, readClauses_eq, alike.stop, Clause.detect?_alike alike]
    simp only [Nat.add_le_add_iff_right]
    split
    next => exact congrArg Except.ok same
    next going =>
      cases detected : Clause.detect? left position with
      | none => exact congrArg Except.error (Clause.unsupported_alike alike position)
      | some clause =>
        dsimp only
        split
        next =>
          have covered := Clause.covers_name (Clause.matchesAt_of_detect? detected)
          have located := ParseError.locate_alike alike covered
            (c := .repeatedClause clause.name) rfl
          rw [recasting.span_between, Nat.add_right_comm] at located
          exact congrArg Except.error located
        next =>
          rw [Clause.segment?_alike alike]
          cases taken : Clause.segment? left clause position with
          | none =>
            have covered : left.Covers (.between position position) := .inl (by simp [Span.between])
            have located := ParseError.locate_alike alike covered
              (c := .missingClause clause.name) rfl
            rw [recasting.span_between] at located
            exact congrArg Except.error located
          | some segment =>
            obtain ⟨keyword, body⟩ := Clause.covers_segment taken
            have added := addClause_alike alike catalog same clause keyword body
            have advanced := Clause.segment_next taken
            have positive := Clause.keyword_length_pos clause
            dsimp only [Option.map_some]
            rcases Recasting.outcome_cases added with
              ⟨first, second, failed, fails, failure⟩ | ⟨first, second, reads, read, extended⟩
            · rw [failed, fails]
              exact congrArg Except.error failure
            · rw [reads, read]
              exact ih (left.stop - segment.next) (by omega) extended _ segment.next rfl

/-! ### Whole questions -/

theorem missingGet_alike {position : Nat} (inside : position < left.stop) :
    recasting.still.error (missingGet right (position + recasting.shift)) =
      recasting.error (missingGet left position) := by
  have found := firstIn_moved (p := left.blankAt) (q := right.blankAt)
    (k := recasting.shift) fun i (above : position ≤ i) (below : i < left.stop) =>
      alike.blankAt below
  rw [missingGet, missingGet, alike.stop, found]
  have wordEnd : (firstIn position left.stop left.blankAt).getD left.stop ≤ left.stop := by
    cases first : firstIn position left.stop left.blankAt with
    | none => exact Nat.le_refl _
    | some i => exact Nat.le_of_lt (firstIn_bounds first).2
  have moved : ((firstIn position left.stop left.blankAt).map (· + recasting.shift)).getD
      (left.stop + recasting.shift) =
        (firstIn position left.stop left.blankAt).getD left.stop + recasting.shift := by
    cases firstIn position left.stop left.blankAt <;> rfl
  generalize (firstIn position left.stop left.blankAt).getD left.stop = word at wordEnd moved
  have covered : left.Covers (.between position (max word (position + 1))) :=
    Window.covers_between (by omega)
  have located := ParseError.locate_alike alike covered (c := .missingGet) rfl
  rw [recasting.span_between, ← Nat.add_max_add_right, Nat.add_right_comm] at located
  rw [moved]
  exact located

/-- The right window is read as the left one is, recast. -/
theorem read_alike (catalog : Catalog) (visible : left.skipAhead left.start < left.stop) :
    recasting.still.outcome recasting.still.query (read catalog right right.start).outcome =
      recasting.outcome recasting.query (read catalog left left.start).outcome := by
  rw [read, read, alike.start, alike.skipAhead, Keyword.matchesAt_alike alike]
  split
  next begins =>
    have inside := Keyword.le_stop_of_matchesAt begins
    have ahead : left.start ≤ left.skipAhead left.start := left.le_skipBlanks left.start left.stop
    have letters : Keyword.get.length = 4 := rfl
    obtain ⟨position, items⟩ := Projection.read_alike alike catalog
      (left.jump (left.skipAhead left.start) (Keyword.get.length - 1)) (by omega)
    dsimp only
    rw [alike.jump, position]
    rcases Recasting.outcome_cases items with
      ⟨first, second, failed, fails, failure⟩ | ⟨first, second, reads, read, projection⟩
    · rw [failed, fails]
      exact congrArg Except.error failure
    · rw [reads, read]
      have opened := Projection.endsAt_of_read read
      obtain ⟨position, scope⟩ := Scope.read_alike alike catalog opened
      dsimp only
      rw [position]
      rcases Recasting.outcome_cases scope with
        ⟨first, second, failed, fails, failure⟩ |
          ⟨⟨otherScope, otherWarnings⟩, ⟨leftScope, warnings⟩, reads, read, scope⟩
      · rw [failed, fails]
        exact congrArg Except.error failure
      · rw [reads, read]
        obtain ⟨scope, warned⟩ := Prod.mk.inj scope
        have parts : recasting.still.query (ofParts first otherScope otherWarnings) =
            recasting.query (ofParts second leftScope warnings) := by
          rw [query_ofParts, query_ofParts, projection, scope, warned]
        exact Recasting.outcome_map_alike (readClauses_alike alike catalog parts [] _)
          query_withShapeWarnings query_withShapeWarnings
  next => exact congrArg Except.error (missingGet_alike alike visible)

end FleetQuery.Query
