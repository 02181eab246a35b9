import FleetQuery.Proofs.Marks.Filters
import Mathlib.Data.List.Perm.Subperm

/-!
# Marks of a query

Every position that a query records points at the text that it stands for: the parts mark visible
text and repeat it, in the order in which they stand, and no two parts share a character. Main
statement: `placed_of_parse`.
-/
namespace FleetQuery.Query

def projection (query : Query) : Projection := ⟨query.columns, query.aggregations⟩

/-- The spans of the columns and of the targets of aggregations. -/
def itemSpans (query : Query) : List Span :=
  (query.columns ++ query.projection.targets).map Column.span

/-- The spans of what the clauses after the scope ask for. -/
def clauseSpans (query : Query) : List Span :=
  query.filters.map Filter.span ++ query.groupBy.toList.map GroupBy.span ++
    query.orderBy.toList.map fun order => order.column.span

/-- Whether the parts of a query repeat the text that they mark. -/
structure Stands (query : Query) (chars : List Char) : Prop where
  columns : ∀ column ∈ query.columns, column.Stands chars
  targets : ∀ call ∈ query.aggregations, ∀ target ∈ call.target, target.Stands chars
  scope : query.scope.span.Marks chars
  filters : ∀ filter ∈ query.filters, filter.Stands chars
  groupBy : ∀ groupBy ∈ query.groupBy, groupBy.Stands chars
  orderBy : ∀ order ∈ query.orderBy, order.Stands chars

/-- Whether every position of a query points at the text that it stands for. -/
structure Placed (query : Query) (chars : List Char) : Prop extends query.Stands chars where
  /-- A warning is about the scope, a filter, the grouping or a column. -/
  warnings : ∀ warning ∈ query.warnings, warning.span = query.scope.span ∨
    (∃ filter ∈ query.filters, warning.span = filter.span) ∨
    (∃ groupBy ∈ query.groupBy, warning.span = groupBy.span) ∨
    ∃ column ∈ query.columns, warning.span = column.span
  beforeScope : ∀ span ∈ query.itemSpans, span.Before query.scope.span
  afterScope : ∀ span ∈ query.clauseSpans, query.scope.span.Before span
  apart : (query.itemSpans ++ query.clauseSpans).Pairwise Span.Apart
  columnsSorted : (query.columns.map Column.span).Pairwise Span.Before
  targetsSorted : (query.projection.targets.map Column.span).Pairwise Span.Before
  filtersSorted : (query.filters.map Filter.span).Pairwise Span.Before

/-! ### Clauses -/

/-- What is said of a query whose clauses have been read up to a position: `items` are its columns
and targets and `clauses` the spans of what was read after the scope, in the order of the text. -/
structure Marked (query : Query) (chars : List Char) (position : Nat) (items : List Column)
    (clauses : List Span) : Prop where
  stands : query.Stands chars
  items : ∃ start, query.projection.Marked chars start query.scope.span.start items
  listed : Span.Listed position query.scope.span.stop clauses
  -- a clause that is repeated takes the place of the earlier one, whose span is then left over
  parts : query.clauseSpans.Subperm clauses
  filters : (query.filters.map Filter.span).Sublist clauses
  warnings : ∀ warning ∈ query.warnings, warning.span = query.scope.span ∨
    ∃ filter ∈ query.filters, warning.span = filter.span

variable {catalog : Catalog} {window : Window} {query extended : Query} {position : Nat}
  {items : List Column} {clauses : List Span} {clause : Clause} {segment : Clause.Segment}

/-- What takes the place of a part comes last in the text. -/
theorem subperm_of_added {front old back marks : List Span} (new : List Span)
    (parts : (front ++ old ++ back).Subperm marks) :
    (front ++ new ++ back).Subperm (marks ++ new) := by
  have moved : (front ++ new ++ back).Perm (front ++ back ++ new) := by
    rw [List.append_assoc, List.append_assoc]
    exact List.perm_append_comm.append_left front
  have kept : (front ++ back).Subperm marks := by
    refine List.Subperm.trans (List.Sublist.subperm ?_) parts
    rw [List.append_assoc]
    exact (List.Sublist.refl front).append (List.sublist_append_right old back)
  exact moved.subperm.trans (kept.append (List.Subperm.refl new))

/-- One more clause adds its marks behind the others. -/
theorem addClause_marked
    (marked : query.Marked window.chars.toList position items clauses)
    (taken : Clause.segment? window clause position = some segment)
    (returned : addClause catalog window query clause segment = .ok extended) :
    ∃ more, extended.Marked window.chars.toList segment.next items more := by
  have stands := Clause.segment?_stands taken
  have behind := stands.behind
  have ends := stands.ends
  have ordered := segment.body.ordered
  cases clause with
  | groupBy =>
    obtain ⟨groupBy, found, rfl⟩ := (map_eq_ok_iff _ _ _).mp returned
    obtain ⟨known, start, stop⟩ := GroupBy.ofSegment_stands stands found
    refine ⟨clauses ++ [groupBy.span], {
      items := marked.items
      warnings := marked.warnings
      stands := { marked.stands with groupBy := ?_ }
      listed := marked.listed.append (.cons start.ge (.nil (stop.trans_le ends)))
      parts := subperm_of_added [groupBy.span] marked.parts
      filters := marked.filters.trans (List.sublist_append_left ..) }⟩
    rintro other ⟨⟩
    exact known
  | orderBy =>
    obtain ⟨order, found, rfl⟩ := (map_eq_ok_iff _ _ _).mp returned
    obtain ⟨known, inside⟩ := OrderBy.ofSegment_stands stands found
    -- the order is the last of the parts, so that nothing stands behind it
    have parts := marked.parts
    rw [clauseSpans, ← List.append_nil (_ ++ _)] at parts
    have more := subperm_of_added [order.column.span] parts
    rw [List.append_nil] at more
    refine ⟨clauses ++ [order.column.span], {
      items := marked.items
      warnings := marked.warnings
      stands := { marked.stands with orderBy := ?_ }
      listed := marked.listed.append (.cons ?_ (.nil (inside.2.trans ends)))
      parts := more
      filters := marked.filters.trans (List.sublist_append_left ..) }⟩
    · rintro other ⟨⟩
      exact known
    · exact (Nat.le_of_lt behind).trans inside.1
  | limit =>
    obtain ⟨limit, _, rfl⟩ := (map_eq_ok_iff _ _ _).mp returned
    exact ⟨clauses, {
      items := marked.items
      warnings := marked.warnings
      stands := { marked.stands with }
      listed := marked.listed.further (by omega)
      parts := marked.parts
      filters := marked.filters }⟩
  | withFilter | whereFilter =>
    obtain ⟨filters, found, rfl⟩ := (map_eq_ok_iff _ _ _).mp returned
    obtain ⟨listed, known⟩ := Filter.ofSegment_stands stands found
    refine ⟨clauses ++ filters.map Filter.span, {
      items := marked.items
      stands := { marked.stands with filters := ?_ }
      listed := marked.listed.append ((listed.earlier (Nat.le_of_lt behind)).further ends)
      parts := ?_
      filters := ?_
      warnings := ?_ }⟩
    · intro filter member
      rcases List.mem_append.mp member with old | new
      · exact marked.stands.filters filter old
      · exact known filter new
    · -- filters are added to the earlier ones and take nothing's place
      have parts := marked.parts
      rw [clauseSpans, List.append_assoc, ← List.append_nil (query.filters.map _)] at parts
      have more := subperm_of_added (filters.map Filter.span) parts
      rw [← List.map_append, ← List.append_assoc] at more
      exact more
    · dsimp only
      rw [List.map_append]
      exact marked.filters.append (List.Sublist.refl _)
    · intro warning member
      rcases List.mem_append.mp member with old | new
      · rcases marked.warnings warning old with scope | ⟨filter, listed, same⟩
        · exact .inl scope
        · exact .inr ⟨filter, List.mem_append_left _ listed, same⟩
      · obtain ⟨filter, listed, warned⟩ := List.mem_filterMap.mp new
        exact .inr ⟨filter, List.mem_append_right _ listed, Filter.warning?_span warned⟩

/-! ### Whole queries -/

/-- A warning about the shape of a query is about its grouping or a column. -/
theorem shapeWarnings_span {query : Query} : ∀ warning ∈ query.shapeWarnings,
    (∃ groupBy ∈ query.groupBy, warning.span = groupBy.span) ∨
      ∃ column ∈ query.columns, warning.span = column.span := by
  intro warning member
  rcases List.mem_append.mp member with grouping | beside
  · left
    split at grouping
    next groupBy grouped =>
      split at grouping
      next => cases grouping
      next =>
        rw [List.mem_singleton.mp grouping]
        exact ⟨groupBy, grouped, rfl⟩
    next => cases grouping
  · right
    split at beside
    next =>
      obtain ⟨column, listed, rfl⟩ := List.mem_map.mp beside
      exact ⟨column, listed, rfl⟩
    next => cases beside

/-- What was read in order stands apart. -/
theorem Marked.apart {chars : List Char} (marked : query.Marked chars position items clauses) :
    (∀ span ∈ query.itemSpans, span.Before query.scope.span) ∧
      (∀ span ∈ query.clauseSpans, query.scope.span.Before span) ∧
      (query.itemSpans ++ query.clauseSpans).Pairwise Span.Apart := by
  obtain ⟨start, listing⟩ := marked.items
  have among := listing.all.map Column.span
  have itemsFirst : ∀ span ∈ query.itemSpans, span.Before query.scope.span :=
    fun span member => (listing.listed.within span (among.mem_iff.mp member)).2
  have clausesLast : ∀ span ∈ query.clauseSpans, query.scope.span.Before span :=
    fun span member => (marked.listed.within span (marked.parts.subset member)).1
  have pairs : ∀ {start stop spans}, Span.Listed stop start spans → spans.Pairwise Span.Apart :=
    fun listed => listed.sorted.imp .inl
  refine ⟨itemsFirst, clausesLast, List.pairwise_append.mpr ⟨?_, ?_, ?_⟩⟩
  · exact (among.pairwise_iff Span.Apart.symm).mpr (pairs listing.listed)
  · obtain ⟨reordered, same, kept⟩ := marked.parts
    exact (same.pairwise_iff Span.Apart.symm).mp ((pairs marked.listed).sublist kept)
  · -- the scope stands between an item and a clause
    intro item listed clause asked
    exact .inl ((itemsFirst item listed).trans
      (query.scope.span.ordered.trans (clausesLast clause asked)))

theorem Marked.placed {chars : List Char} (marked : query.Marked chars position items clauses) :
    query.withShapeWarnings.Placed chars := by
  obtain ⟨start, listing⟩ := marked.items
  obtain ⟨itemsFirst, clausesLast, apart⟩ := marked.apart
  refine {
    marked.stands with
    beforeScope := itemsFirst
    afterScope := clausesLast
    apart := apart
    columnsSorted := listing.listed.sorted.sublist (listing.columns.map _)
    targetsSorted := listing.listed.sorted.sublist (listing.targets.map _)
    filtersSorted := marked.listed.sorted.sublist marked.filters
    warnings := ?_ }
  intro warning member
  rcases List.mem_append.mp member with old | shape
  · exact (marked.warnings warning old).imp_right .inl
  · exact .inr (.inr (shapeWarnings_span warning shape))

/-- A query without clauses marks its items and its scope. -/
theorem ofParts_marked {projection : Projection} {scope : Scope} {warnings : List Warning}
    {chars : List Char} {start stop : Nat}
    (listing : projection.Marked chars start stop items) (behind : stop ≤ scope.span.start)
    (marks : scope.span.Marks chars) (before : scope.span.stop ≤ position)
    (warned : ∀ warning ∈ warnings, warning.span = scope.span) :
    (ofParts projection scope warnings).Marked chars position items [] where
  stands := {
    columns := fun column member => listing.stand column (listing.columns.subset member)
    targets := fun call member target targeted => listing.stand target
      (listing.targets.subset (List.mem_filterMap.mpr ⟨call, member, targeted⟩))
    scope := marks
    filters := nofun
    groupBy := nofun
    orderBy := nofun }
  items := ⟨start, { listing with listed := listing.listed.further behind }⟩
  listed := .nil before
  parts := List.Subperm.refl []
  filters := .slnil
  warnings := fun warning member => .inl (warned warning member)

/-- Every position of a query that parses points at the text that it stands for. -/
theorem placed_of_parse {catalog : Catalog} {question : String} {query : Query}
    (parsed : parse catalog question = .ok query) : query.Placed question.toList := by
  unfold parse read at parsed
  dsimp only at parsed
  split at parsed
  next =>
    split at parsed
    next => cases parsed
    next projection listed =>
      split at parsed
      next => cases parsed
      next scope warnings read =>
        obtain ⟨bare, found, rfl⟩ := (map_eq_ok_iff _ _ _).mp parsed
        -- items first, then the scope, then the clauses one by one
        obtain ⟨items, listing⟩ := Projection.read_marked listed
        obtain ⟨marks, behind, before, warned⟩ :=
          Scope.read_stands (Projection.endsAt_of_read listed) read
        obtain ⟨last, clauses, marked⟩ := readClauses_run catalog (Window.ofText question)
          (fun position query =>
            ∃ clauses, query.Marked question.toList position items clauses)
          (fun _ _ _ _ _ ⟨_, marked⟩ taken added => addClause_marked marked taken added)
          _ _ _ _ ⟨[], ofParts_marked listing behind marks before warned⟩ found
        exact marked.placed
  next => cases parsed

/-- Dots, blanks of several kinds and letters beyond ASCII around every part. -/
def scattered : String :=
  "  Get Computer Name , avg( CPU percent ) and role from group \"Lab\"  with role contains " ++
  "\"x\" and ROLE equals \"é and\".. order by  Cpu\tPercent  desc group by Role "

theorem placed_of_parse_scattered : ∃ query, parse .standard scattered = .ok query ∧
    query.Placed scattered.toList ∧ query.filters.map Filter.value = ["x", "é and"] := by
  have read : (parse .standard scattered).map (fun query => query.filters.map Filter.value) =
      .ok ["x", "é and"] := by decide +kernel
  obtain ⟨query, parsed, values⟩ := (map_eq_ok_iff _ _ _).mp read
  exact ⟨query, parsed, placed_of_parse parsed, values⟩

end FleetQuery.Query
