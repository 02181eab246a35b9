import FleetQuery.Proofs.Outcome
import FleetQuery.Proofs.Question.Clauses

/-!
# Labels of a query

Each reader checks the labels that it keeps, so the catalog knows every label of a query that parses.
Main statement: `resolved_of_parse`.
-/
namespace FleetQuery

theorem Column.known_eq_ok_iff (column result : Column) (window : Window) (catalog : Catalog)
    (cause : ParseError.Cause) :
    column.known window catalog cause = .ok result ↔
      column = result ∧ (catalog.field? column.label).isSome := by
  unfold Column.known
  split <;> simp_all

theorem Column.known_eq_error_iff {column : Column} {window : Window} {catalog : Catalog}
    {cause : ParseError.Cause} {error : ParseError} :
    column.known window catalog cause = .error error ↔
      catalog.field? column.label = none ∧ error = .locate window cause column.span := by
  rw [Column.known]
  split
  next known => simp [Option.isSome_iff_ne_none.mp known]
  next absent => simp [Option.not_isSome_iff_eq_none.mp absent, eq_comm]

/-! ### Items -/

namespace Projection

/-- Whether the catalog knows the label of an item, if it has one. -/
def Item.Resolved (catalog : Catalog) : Item → Prop
  | Item.column shown => (catalog.field? shown.label).isSome
  | Item.aggregate call => ∀ target ∈ call.target, (catalog.field? target.label).isSome

/-- What a piece is read as: a call if it has the form of one, and else a column. -/
def itemOf (window : Window) (piece : Span) : Item :=
  ((aggregateCall? window piece).map Item.aggregate).getD (.column (.ofSpan window piece))

/-- A piece is read as an item if the catalog knows the label of the item. -/
theorem readItem_eq_ok_iff {catalog : Catalog} {window : Window} {piece : Span} {item : Item} :
    readItem catalog window piece = .ok item ↔
      item = itemOf window piece ∧ (itemOf window piece).Resolved catalog := by
  rw [readItem, itemOf]
  cases aggregateCall? window piece with
  | none =>
    simp only [Option.map_none, Option.getD_none, map_eq_ok_iff, Column.known_eq_ok_iff]
    constructor
    · rintro ⟨_, ⟨rfl, known⟩, rfl⟩
      exact ⟨rfl, known⟩
    · rintro ⟨rfl, known⟩
      exact ⟨_, ⟨rfl, known⟩, rfl⟩
  | some call =>
    cases targeted : call.target with
    | none =>
      simp only [Option.map_some, Option.getD_some, targeted, Except.ok.injEq]
      constructor
      · rintro rfl
        exact ⟨rfl, by simp [Item.Resolved, targeted]⟩
      · rintro ⟨rfl, _⟩
        rfl
    | some target =>
      simp only [Option.map_some, Option.getD_some, targeted, map_eq_ok_iff,
        Column.known_eq_ok_iff]
      constructor
      · rintro ⟨_, ⟨rfl, known⟩, rfl⟩
        exact ⟨rfl, by simpa [Item.Resolved, targeted] using known⟩
      · rintro ⟨rfl, known⟩
        exact ⟨target, ⟨rfl, by simpa [Item.Resolved, targeted] using known⟩, rfl⟩

/-- Whether the catalog knows every label of a list of items. -/
def Resolved (catalog : Catalog) (projection : Projection) : Prop :=
  (∀ column ∈ projection.columns, (catalog.field? column.label).isSome) ∧
    ∀ call ∈ projection.aggregations, ∀ target ∈ call.target, (catalog.field? target.label).isSome

theorem ofItems_resolved (catalog : Catalog) (items : List Item)
    (resolved : ∀ item ∈ items, item.Resolved catalog) : (ofItems items).Resolved catalog := by
  constructor
  · intro column member
    obtain ⟨item, listed, kept⟩ := List.mem_filterMap.mp member
    cases item with
    | column shown =>
      cases kept
      exact resolved _ listed
    | aggregate call => cases kept
  · intro call member
    obtain ⟨item, listed, kept⟩ := List.mem_filterMap.mp member
    cases item with
    | column shown => cases kept
    | aggregate asked =>
      cases kept
      exact resolved _ listed

theorem read_resolved (catalog : Catalog) (window : Window) (position : Nat)
    (projection : Projection)
    (returned : (read catalog window position).outcome = .ok projection) :
    projection.Resolved catalog := by
  unfold read at returned
  split at returned
  next => cases returned
  next spans stop _ =>
    obtain ⟨items, traversed, rfl⟩ := (map_eq_ok_iff _ _ _).mp returned
    refine ofItems_resolved catalog items fun item member => ?_
    obtain ⟨span, _, found⟩ := mapM_mem traversed member
    obtain ⟨rfl, resolved⟩ := readItem_eq_ok_iff.mp found
    exact resolved

end Projection

/-! ### Clauses -/

theorem GroupBy.ofSegment_resolved (catalog : Catalog) (window : Window) (segment : Clause.Segment)
    (groupBy : GroupBy) (returned : ofSegment catalog window segment = .ok groupBy) :
    (catalog.field? groupBy.column.label).isSome := by
  unfold ofSegment at returned
  split at returned
  next => cases returned
  next =>
    obtain ⟨_, found, rfl⟩ := (map_eq_ok_iff _ _ _).mp returned
    obtain ⟨rfl, known⟩ := (Column.known_eq_ok_iff _ _ _ _ _).mp found
    exact known

theorem OrderBy.ofSegment_resolved (catalog : Catalog) (window : Window) (segment : Clause.Segment)
    (order : OrderBy) (returned : ofSegment catalog window segment = .ok order) :
    (catalog.field? order.column.label).isSome := by
  unfold ofSegment at returned
  dsimp only at returned
  split at returned
  next => cases returned
  next =>
    obtain ⟨_, found, rfl⟩ := (map_eq_ok_iff _ _ _).mp returned
    obtain ⟨rfl, known⟩ := (Column.known_eq_ok_iff _ _ _ _ _).mp found
    exact known

theorem Filter.ofSegment_resolved (catalog : Catalog) (window : Window) (segment : Clause.Segment)
    (filters : List Filter) (returned : ofSegment catalog window segment = .ok filters)
    (filter : Filter) (member : filter ∈ filters) :
    catalog.field? filter.label = some filter.field := by
  obtain ⟨span, _, found⟩ := mapM_mem returned member
  unfold ofSpan at found
  split at found
  next =>
    unfold ofPredicate at found
    dsimp only at found
    split at found
    next known =>
      cases found
      exact known
    next => cases found
  next => cases found

namespace Query

/-- Whether the catalog knows every label of a query, and filters carry the fields of theirs. -/
structure Resolved (catalog : Catalog) (query : Query) : Prop where
  columns : ∀ column ∈ query.columns, (catalog.field? column.label).isSome
  targets : ∀ call ∈ query.aggregations, ∀ target ∈ call.target,
    (catalog.field? target.label).isSome
  filters : ∀ filter ∈ query.filters, catalog.field? filter.label = some filter.field
  groupBy : ∀ groupBy ∈ query.groupBy, (catalog.field? groupBy.column.label).isSome
  orderBy : ∀ order ∈ query.orderBy, (catalog.field? order.column.label).isSome

/-- One more clause keeps the labels known. -/
theorem addClause_resolved (catalog : Catalog) (window : Window) (query extended : Query)
    (clause : Clause) (segment : Clause.Segment) (resolved : query.Resolved catalog)
    (returned : addClause catalog window query clause segment = .ok extended) :
    extended.Resolved catalog := by
  cases clause with
  | groupBy =>
    obtain ⟨groupBy, found, rfl⟩ := (map_eq_ok_iff _ _ _).mp returned
    have known := GroupBy.ofSegment_resolved catalog window segment groupBy found
    exact { resolved with groupBy := by simpa using known }
  | orderBy =>
    obtain ⟨order, found, rfl⟩ := (map_eq_ok_iff _ _ _).mp returned
    have known := OrderBy.ofSegment_resolved catalog window segment order found
    exact { resolved with orderBy := by simpa using known }
  | limit =>
    obtain ⟨limit, _, rfl⟩ := (map_eq_ok_iff _ _ _).mp returned
    exact { resolved with }
  | withFilter | whereFilter =>
    obtain ⟨filters, found, rfl⟩ := (map_eq_ok_iff _ _ _).mp returned
    refine { resolved with filters := fun filter member => ?_ }
    -- filters of earlier clauses are kept, those of this one were just read
    rcases List.mem_append.mp member with old | new
    · exact resolved.filters filter old
    · exact Filter.ofSegment_resolved catalog window segment filters found filter new

theorem ofParts_resolved (catalog : Catalog) (projection : Projection) (scope : Scope)
    (warnings : List Warning) (resolved : projection.Resolved catalog) :
    (ofParts projection scope warnings).Resolved catalog where
  columns := resolved.1
  targets := resolved.2
  filters := by simp [ofParts]
  groupBy := by simp [ofParts]
  orderBy := by simp [ofParts]

/-- The catalog knows every label of a query that parses. -/
theorem resolved_of_parse {catalog : Catalog} {question : String} {query : Query}
    (parsed : parse catalog question = .ok query) : query.Resolved catalog := by
  unfold parse read at parsed
  dsimp only at parsed
  split at parsed
  next =>
    split at parsed
    next => cases parsed
    next items listed =>
      split at parsed
      next => cases parsed
      next selection warnings _ =>
        -- items first, then the clauses one by one; the warnings at the end change no label
        obtain ⟨bare, found, rfl⟩ := (map_eq_ok_iff _ _ _).mp parsed
        have start := ofParts_resolved catalog items selection warnings
          (Projection.read_resolved catalog _ _ items listed)
        have kept := readClauses_invariant catalog _ (Resolved catalog)
          (fun _ _ _ _ resolved added => addClause_resolved catalog _ _ _ _ _ resolved added)
          _ _ _ _ start found
        exact { kept with }
  next => cases parsed

end Query
end FleetQuery
