import FleetQuery.Proofs.Evaluation.Direct

/-!
# Plans of queries

The plan of a query whose labels are known exists, and executing it gives what direct evaluation
gives: no step meets a relation of the wrong kind, and the counts are those of the scope and of the
filters. Main statement: `execute_ofQuery`.
-/
namespace FleetQuery.Plan

/-! ### Planning -/

theorem resolve_eq_ok {catalog : Catalog} {label : String}
    (known : (catalog.field? label).isSome) :
    resolve catalog label = .ok (catalog.fieldOf label) := by
  rw [resolve, Catalog.field?_eq_some known]

theorem resolve_eq_error {catalog : Catalog} {label : String}
    (unknown : catalog.field? label = none) : resolve catalog label = .error ⟨label⟩ := by
  rw [resolve, unknown]

theorem headedField_eq_ok {catalog : Catalog} {label : String}
    (known : (catalog.field? label).isSome) :
    headedField catalog label = .ok ⟨label, catalog.fieldOf label⟩ := by
  rw [headedField, resolve_eq_ok known]
  rfl

theorem columnLabels_eq_shownLabels (query : Query) (defaultColumn : String) :
    columnLabels query defaultColumn = query.shownLabels defaultColumn := by
  simp [columnLabels, Query.shownLabels, List.isEmpty_iff]

section

variable {catalog : Catalog} {query : Query} {defaultColumn : String}

theorem aggregateColumn_eq_ok (resolved : query.Resolved catalog) :
    ∀ call ∈ query.aggregations,
      aggregateColumn catalog call = .ok (Query.aggregateColumnOf catalog call) := by
  intro call member
  unfold aggregateColumn
  split
  next untargeted => simp [Query.aggregateColumnOf, untargeted]
  next target targeted =>
    rw [resolve_eq_ok (resolved.targets call member target targeted)]
    simp [Except.map, Query.aggregateColumnOf, targeted]

theorem groupKey_eq_ok (resolved : query.Resolved catalog) :
    (query.groupBy.mapM fun groupBy => headedField catalog groupBy.column.label) =
      .ok (query.groupKeyOf catalog) := by
  cases grouped : query.groupBy with
  | none => simp [Query.groupKeyOf, grouped, pure, Except.pure]
  | some groupBy =>
    have known := headedField_eq_ok (resolved.groupBy groupBy grouped)
    simp [Query.groupKeyOf, grouped, known, Functor.map, Except.map]

/-- The step that makes the table of a query whose labels are known. -/
theorem table_eq_ok (resolved : query.Resolved catalog)
    (known : query.columns = [] → query.aggregations = [] →
      (catalog.field? defaultColumn).isSome) :
    table query catalog defaultColumn = .ok
      (if query.aggregations = [] then
        project (source query) (query.headedFields catalog defaultColumn)
      else
        aggregate (source query) (query.groupKeyOf catalog)
          (query.aggregations.map (Query.aggregateColumnOf catalog))) := by
  by_cases plain : query.aggregations = []
  · have labels := Query.shownLabels_known resolved fun bare => known bare plain
    have columns := mapM_eq_ok_map (headedField catalog)
      (fun label => (⟨label, catalog.fieldOf label⟩ : HeadedField)) _
      fun label shown => headedField_eq_ok (labels label shown)
    simp [table, Query.isAggregate, plain, columnLabels_eq_shownLabels, columns,
      Query.headedFields, bind, Except.bind, pure, Except.pure]
  · have columns := mapM_eq_ok_map _ _ _ (aggregateColumn_eq_ok resolved)
    have key := groupKey_eq_ok resolved
    have aggregating : query.isAggregate = true := by
      simpa [Query.isAggregate] using plain
    simp [table, aggregating, plain, columns, key, bind, Except.bind, pure, Except.pure]

/-- Without columns and aggregations a query has no plan if the default column is unknown. -/
theorem ofQuery_eq_error (bare : query.columns = []) (plain : query.aggregations = [])
    (unknown : catalog.field? defaultColumn = none) :
    ofQuery query catalog defaultColumn = .error ⟨defaultColumn⟩ := by
  simp [ofQuery, table, Query.isAggregate, plain, columnLabels, bare, headedField,
    resolve_eq_error unknown, bind, Except.bind, Except.map]

end

/-! ### Executing -/

section

variable {inventory : Inventory}

/-- Filters keep the machines that pass all of them, and count these. -/
theorem run_filters (filters : List Filter) (plan : Plan) (machines : List Machine)
    (counts : Counts) (ran : plan.run inventory = .ok (.machines machines, counts))
    (counted : counts.filtered = machines.length) :
    (filters.foldl filter plan).run inventory = .ok
      (.machines (machines.filter fun machine => filters.all fun filter => filter.matches machine),
       { counts with
         filtered := (machines.filter fun machine =>
           filters.all fun filter => filter.matches machine).length }) := by
  induction filters generalizing plan machines counts with
  | nil =>
    simp only [List.foldl_nil, List.all_nil, List.filter_true, ran, ← counted]
  | cons first rest ih =>
    have step : (plan.filter first).run inventory = .ok
        (.machines (machines.filter first.matches),
         { counts with filtered := (machines.filter first.matches).length }) := by
      simp [run, ran, bind, Except.bind, Relation.toMachines, pure, Except.pure]
    -- the first filter is the innermost step, so what the others see has passed it
    have both : (fun machine => (first :: rest).all fun filter => filter.matches machine) =
        fun machine => first.matches machine && rest.all fun filter => filter.matches machine := by
      funext machine
      rw [List.all_cons]
    rw [List.foldl_cons, ih _ _ _ step rfl, both]
    simp only [List.filter_filter, Bool.and_comm]

/-- The machines that a query is about, with their counts. -/
theorem run_source (query : Query) :
    (source query).run inventory = .ok
      (.machines (query.selected inventory.machines), query.counts inventory.machines) := by
  unfold source Query.counts Query.selected Query.inScope
  cases query.scope.groupName? with
  | none => exact run_filters query.filters scan _ _ rfl rfl
  | some group =>
    have narrowed : (scan.scope group).run inventory = .ok
        (.machines (inventory.machines.filter fun machine => machine.groupName = some group),
         ⟨(inventory.machines.filter fun machine => machine.groupName = some group).length,
          (inventory.machines.filter fun machine => machine.groupName = some group).length⟩) := by
      simp [run, bind, Except.bind, Relation.toMachines, pure, Except.pure, Machine.isInGroup,
        beq_eq_decide]
    exact run_filters query.filters (scan.scope group) _ _ narrowed rfl

/-- A table after the step that orders it. -/
def orderTable (made : Table) : Option OrderBy → Table
  | some order => made.sortBy order.column.label order.ascending
  | none => made

/-- A table after the step that cuts it. -/
def cutTable (made : Table) : Option Nat → Table
  | some rows => made.take rows
  | none => made

theorem run_withOrder (plan : Plan) (order : Option OrderBy) (made : Table) (counts : Counts)
    (ran : plan.run inventory = .ok (.table made, counts)) :
    (plan.withOrder order).run inventory = .ok (.table (orderTable made order), counts) := by
  cases order with
  | none => exact ran
  | some order =>
    simp [withOrder, orderTable, run, ran, bind, Except.bind, Relation.toTable, pure, Except.pure]

theorem run_withLimit (plan : Plan) (limit : Option Nat) (made : Table) (counts : Counts)
    (ran : plan.run inventory = .ok (.table made, counts)) :
    (plan.withLimit limit).run inventory = .ok (.table (cutTable made limit), counts) := by
  cases limit with
  | none => exact ran
  | some rows =>
    simp [withLimit, cutTable, run, ran, bind, Except.bind, Relation.toTable, pure, Except.pure]

theorem isOrdered_orderTable (query : Query) (made : Table) :
    query.IsOrdered made (orderTable made query.orderBy).rows := by
  unfold Query.IsOrdered orderTable
  cases query.orderBy with
  | none => rfl
  | some order =>
    exact ⟨fun column named => Table.sortBy_of_named named order.ascending,
      fun unnamed => congrArg Table.rows (Table.sortBy_of_unnamed unnamed order.ascending)⟩

theorem orderTable_headers (made : Table) (order : Option OrderBy) :
    (orderTable made order).headers = made.headers := by
  cases order with
  | none => rfl
  | some order => exact Table.headers_sortBy made order.column.label order.ascending

theorem cutTable_eq (query : Query) (made : Table) :
    cutTable made query.limit = ⟨made.headers, query.cut made.rows⟩ := by
  unfold Query.cut cutTable
  cases query.limit <;> rfl

/-- The step that makes the table of a query makes the table of direct evaluation. -/
theorem run_table (inventory : Inventory) {catalog : Catalog} {query : Query}
    {defaultColumn : String} (resolved : query.Resolved catalog)
    (known : query.columns = [] → query.aggregations = [] →
      (catalog.field? defaultColumn).isSome) :
    ∃ plan made,
      table query catalog defaultColumn = .ok plan ∧
      query.tabulate? catalog defaultColumn (query.selected inventory.machines) = some made ∧
      plan.run inventory = .ok (.table made, query.counts inventory.machines) := by
  refine ⟨_, _, table_eq_ok resolved known, Query.tabulate?_eq_some resolved known _, ?_⟩
  -- the base of the plan depends on whether the query aggregates, as the table does
  split
  next => simp [run, run_source, bind, Except.bind, Relation.toMachines, pure, Except.pure]
  next =>
    simp [run, run_source, bind, Except.bind, Relation.toMachines, pure, Except.pure,
      Table.aggregated_eq_ofParts]

/-- The plan of a query whose labels are known leads to the result of direct evaluation. -/
theorem execute_ofQuery (inventory : Inventory) {catalog : Catalog} {query : Query}
    {defaultColumn : String} (resolved : query.Resolved catalog)
    (known : query.columns = [] → query.aggregations = [] →
      (catalog.field? defaultColumn).isSome) :
    ∃ plan execution,
      ofQuery query catalog defaultColumn = .ok plan ∧
      plan.execute inventory = .ok execution ∧
      query.IsResult catalog defaultColumn inventory.machines execution := by
  obtain ⟨base, made, planned, tabulated, ran⟩ := run_table inventory resolved known
  -- order and limit change neither the headers nor the counts, and they come in this order
  have ordered := run_withOrder base query.orderBy made _ ran
  have limited := run_withLimit (base.withOrder query.orderBy) query.limit _ _ ordered
  refine ⟨(base.withOrder query.orderBy).withLimit query.limit,
    ⟨cutTable (orderTable made query.orderBy) query.limit, query.counts inventory.machines⟩,
    ?_, ?_, ?_⟩
  · rw [ofQuery, planned]
    rfl
  · rw [execute, limited]
    rfl
  · refine ⟨made, _, tabulated, isOrdered_orderTable query made, ?_, rfl⟩
    rw [cutTable_eq, orderTable_headers]

end

end FleetQuery.Plan
