import FleetQuery.Failure
import FleetQuery.Proofs.Aggregation.Groups

/-!
# Forms of plans

A plan is executed if and only if it has the form of a table: orders and limits over one projection
or aggregation, over scopes and filters, over the scan. Every plan of another form is refused as a
plan, whatever machines there are. The rows of a table are as long as its headers, so a column that is
found by its header is there in every row. Main statement: `execute_iff_tabulates`.
-/
namespace FleetQuery

/-! ### Rectangular tables -/

namespace Table

/-- Whether every row has a cell for each header. -/
def IsRectangular (table : Table) : Prop := ∀ row ∈ table.rows, row.length = table.headers.length

theorem isRectangular_ofColumns (columns : List HeadedField) (machines : List Machine) :
    (ofColumns columns machines).IsRectangular := by
  intro row member
  obtain ⟨machine, _, rfl⟩ := List.mem_map.mp member
  rw [List.length_map, ofColumns, List.length_map]

theorem isRectangular_ofParts (key : Option HeadedField) (columns : List AggregateColumn)
    (machines : List Machine) : (ofParts key columns machines).IsRectangular := by
  intro row member
  cases key with
  | none =>
    rw [List.mem_singleton.mp member]
    simp [ofParts, cellsOver]
  | some column =>
    obtain ⟨value, _, rfl⟩ := List.mem_map.mp member
    simp [ofParts, cellsOver]

theorem IsRectangular.sortBy {table : Table} (rectangular : table.IsRectangular) (key : String)
    (ascending : Bool) : (table.sortBy key ascending).IsRectangular := by
  rw [Table.sortBy]
  split
  next column _ =>
    -- sorting moves the rows and changes none
    intro row member
    exact rectangular row ((List.mergeSort_perm table.rows _).mem_iff.mp member)
  next => exact rectangular

theorem IsRectangular.take {table : Table} (rectangular : table.IsRectangular) (rows : Nat) :
    (table.take rows).IsRectangular :=
  fun row member => rectangular row (List.mem_of_mem_take member)

/-- A column that is found by its header is there in every row. -/
theorem IsRectangular.columnIndex?_lt {table : Table} (rectangular : table.IsRectangular)
    {key : String} {column : Nat} (found : columnIndex? table.headers key = some column) :
    ∀ row ∈ table.rows, column < row.length := by
  intro row member
  rw [rectangular row member]
  exact (List.findIdx?_eq_some_iff_findIdx_eq.mp found).1

end Table

/-! ### Forms -/

namespace Plan

/-- Whether a plan is any number of scopes and filters over the scan. -/
inductive Selects : Plan → Prop where
  | scan : Selects scan
  | scope {input : Plan} {group : String} (below : input.Selects) : Selects (input.scope group)
  | filter {input : Plan} {condition : Filter} (below : input.Selects) :
      Selects (input.filter condition)

/-- Whether a plan is any number of orders and limits over one projection or aggregation of selected
machines. -/
inductive Tabulates : Plan → Prop where
  | project {input : Plan} {columns : List HeadedField} (below : input.Selects) :
      Tabulates (input.project columns)
  | aggregate {input : Plan} {key : Option HeadedField} {columns : List AggregateColumn}
      (below : input.Selects) : Tabulates (input.aggregate key columns)
  | sort {input : Plan} {key : String} {ascending : Bool} (below : input.Tabulates) :
      Tabulates (input.sort key ascending)
  | limit {input : Plan} {rows : Nat} (below : input.Tabulates) : Tabulates (input.limit rows)

theorem selects_scope_iff {input : Plan} {group : String} :
    (input.scope group).Selects ↔ input.Selects :=
  ⟨fun | .scope below => below, .scope⟩

theorem selects_filter_iff {input : Plan} {condition : Filter} :
    (input.filter condition).Selects ↔ input.Selects :=
  ⟨fun | .filter below => below, .filter⟩

theorem tabulates_project_iff {input : Plan} {columns : List HeadedField} :
    (input.project columns).Tabulates ↔ input.Selects :=
  ⟨fun | .project below => below, .project⟩

theorem tabulates_aggregate_iff {input : Plan} {key : Option HeadedField}
    {columns : List AggregateColumn} : (input.aggregate key columns).Tabulates ↔ input.Selects :=
  ⟨fun | .aggregate below => below, .aggregate⟩

theorem tabulates_sort_iff {input : Plan} {key : String} {ascending : Bool} :
    (input.sort key ascending).Tabulates ↔ input.Tabulates :=
  ⟨fun | .sort below => below, .sort⟩

theorem tabulates_limit_iff {input : Plan} {rows : Nat} :
    (input.limit rows).Tabulates ↔ input.Tabulates :=
  ⟨fun | .limit below => below, .limit⟩

/-- No plan has both forms. -/
theorem Selects.not_tabulates {plan : Plan} (selects : plan.Selects) : ¬ plan.Tabulates := by
  cases selects <;> nofun

theorem Tabulates.not_selects {plan : Plan} (tabulates : plan.Tabulates) : ¬ plan.Selects :=
  fun selects => selects.not_tabulates tabulates

/-! ### Running -/

/-- What a plan runs to: its form decides whether that is machines, a table or an error. -/
inductive RunsTo (inventory : Inventory) (plan : Plan) : Prop where
  | machines (form : plan.Selects) (found : List Machine) (counts : Counts)
      (ran : plan.run inventory = .ok (.machines found, counts))
  | table (form : plan.Tabulates) (made : Table) (counts : Counts)
      (ran : plan.run inventory = .ok (.table made, counts)) (rectangular : made.IsRectangular)
  | refused (noMachines : ¬ plan.Selects) (noTable : ¬ plan.Tabulates) (error : ExecutionError)
      (ran : plan.run inventory = .error error) (kind : (Failure.execution error).kind = .plan)

/-- Every plan runs to what its form says, step by step from the scan. -/
theorem runsTo (inventory : Inventory) (plan : Plan) : plan.RunsTo inventory := by
  induction plan with
  | scan => exact .machines .scan _ _ rfl
  | scope input group ih =>
    cases ih with
    | machines form found counts ran => exact .machines (.scope form) _ _ (by rw [run, ran]; rfl)
    | table form made counts ran rectangular =>
      exact .refused (selects_scope_iff.not.mpr form.not_selects) nofun _ (by rw [run, ran]; rfl) rfl
    | refused noMachines noTable error ran kind =>
      exact .refused (selects_scope_iff.not.mpr noMachines) nofun error (by rw [run, ran]; rfl) kind
  | filter input condition ih =>
    cases ih with
    | machines form found counts ran => exact .machines (.filter form) _ _ (by rw [run, ran]; rfl)
    | table form made counts ran rectangular =>
      exact .refused (selects_filter_iff.not.mpr form.not_selects) nofun _ (by rw [run, ran]; rfl) rfl
    | refused noMachines noTable error ran kind =>
      exact .refused (selects_filter_iff.not.mpr noMachines) nofun error (by rw [run, ran]; rfl) kind
  | project input columns ih =>
    cases ih with
    | machines form found counts ran =>
      exact .table (.project form) _ _ (by rw [run, ran]; rfl)
        (Table.isRectangular_ofColumns columns found)
    | table form made counts ran rectangular =>
      exact .refused nofun (tabulates_project_iff.not.mpr form.not_selects) _
        (by rw [run, ran]; rfl) rfl
    | refused noMachines noTable error ran kind =>
      exact .refused nofun (tabulates_project_iff.not.mpr noMachines) error
        (by rw [run, ran]; rfl) kind
  | aggregate input key columns ih =>
    cases ih with
    | machines form found counts ran =>
      -- no column takes more than one cell of a machine, so that no accumulator refuses
      have grouped : (input.aggregate key columns).run inventory =
          .ok (.table (Table.ofParts key columns found), counts) := by
        simp only [run, ran, bind, Except.bind, Relation.toMachines, Table.aggregated_eq_ofParts,
          pure, Except.pure]
      exact .table (.aggregate form) _ _ grouped (Table.isRectangular_ofParts key columns found)
    | table form made counts ran rectangular =>
      exact .refused nofun (tabulates_aggregate_iff.not.mpr form.not_selects) _
        (by rw [run, ran]; rfl) rfl
    | refused noMachines noTable error ran kind =>
      exact .refused nofun (tabulates_aggregate_iff.not.mpr noMachines) error
        (by rw [run, ran]; rfl) kind
  | sort input key ascending ih =>
    cases ih with
    | machines form found counts ran =>
      exact .refused nofun (tabulates_sort_iff.not.mpr form.not_tabulates) _
        (by rw [run, ran]; rfl) rfl
    | table form made counts ran rectangular =>
      exact .table (.sort form) _ _ (by rw [run, ran]; rfl) (rectangular.sortBy key ascending)
    | refused noMachines noTable error ran kind =>
      exact .refused nofun (tabulates_sort_iff.not.mpr noTable) error (by rw [run, ran]; rfl) kind
  | limit input rows ih =>
    cases ih with
    | machines form found counts ran =>
      exact .refused nofun (tabulates_limit_iff.not.mpr form.not_tabulates) _
        (by rw [run, ran]; rfl) rfl
    | table form made counts ran rectangular =>
      exact .table (.limit form) _ _ (by rw [run, ran]; rfl) (rectangular.take rows)
    | refused noMachines noTable error ran kind =>
      exact .refused nofun (tabulates_limit_iff.not.mpr noTable) error (by rw [run, ran]; rfl) kind

/-- A plan that runs to a table has the form of one, and the table is rectangular. -/
theorem form_of_run_table {plan : Plan} {inventory : Inventory} {made : Table} {counts : Counts}
    (ran : plan.run inventory = .ok (.table made, counts)) :
    plan.Tabulates ∧ made.IsRectangular := by
  cases plan.runsTo inventory with
  | machines _ found others other => rw [ran] at other; cases other
  | table form made others other rectangular =>
    rw [ran] at other
    cases other
    exact ⟨form, rectangular⟩
  | refused _ _ error other => rw [ran] at other; cases other

theorem execute_eq_ok_iff {plan : Plan} {inventory : Inventory} {execution : Execution} :
    plan.execute inventory = .ok execution ↔
      plan.run inventory = .ok (.table execution.table, execution.counts) := by
  rw [execute]
  constructor
  · intro executed
    obtain ⟨⟨relation, counts⟩, ran, tabled⟩ := (bind_eq_ok_iff _ _ _).mp executed
    cases relation with
    | machines found => cases tabled
    | table made => cases tabled; exact ran
  · intro ran
    rw [ran]
    rfl

/-! ### Plans of queries -/

theorem selects_source (query : Query) : (source query).Selects := by
  -- a filter is put on whatever came before it, so the scope is generalised to any selection
  have filtered : ∀ (filters : List Filter) (plan : Plan), plan.Selects →
      (filters.foldl filter plan).Selects := by
    intro filters
    induction filters with
    | nil => exact fun _ selects => selects
    | cons first rest ih => exact fun plan selects => ih _ selects.filter
  apply filtered
  split
  next => exact .scope .scan
  next => exact .scan

/-- The step that makes the table of a query projects or aggregates the machines it is about. -/
theorem tabulates_of_table {query : Query} {catalog : Catalog} {defaultColumn : String}
    {plan : Plan} (tabled : table query catalog defaultColumn = .ok plan) : plan.Tabulates := by
  unfold table at tabled
  split at tabled
  next =>
    obtain ⟨columns, _, keyed⟩ := (bind_eq_ok_iff _ _ _).mp tabled
    obtain ⟨key, _, made⟩ := (bind_eq_ok_iff _ _ _).mp keyed
    cases made
    exact .aggregate (selects_source query)
  next =>
    obtain ⟨columns, _, made⟩ := (bind_eq_ok_iff _ _ _).mp tabled
    cases made
    exact .project (selects_source query)

theorem tabulates_of_ofQuery {query : Query} {catalog : Catalog} {defaultColumn : String}
    {plan : Plan} (planned : ofQuery query catalog defaultColumn = .ok plan) :
    plan.Tabulates := by
  obtain ⟨made, tabled, rfl⟩ := (map_eq_ok_iff _ _ _).mp planned
  have base := tabulates_of_table tabled
  have ordered : (made.withOrder query.orderBy).Tabulates := by
    cases query.orderBy with
    | none => exact base
    | some order => exact base.sort
  cases query.limit with
  | none => exact ordered
  | some rows => exact ordered.limit

/-- A plan is executed if and only if it is any number of orders and limits over one projection or
aggregation, over any number of scopes and filters, over the scan; otherwise it is refused as a plan.
Every row of a result has a cell for each header, and so has every row of the table that an order is
given, so that the column it sorts by is there. The plans of queries have the form. -/
theorem execute_iff_tabulates (plan : Plan) (inventory : Inventory) :
    ((∃ execution, plan.execute inventory = .ok execution) ↔ plan.Tabulates) ∧
    (¬ plan.Tabulates → ∃ error, plan.execute inventory = .error error ∧
      (Failure.execution error).kind = .plan) ∧
    (∀ execution, plan.execute inventory = .ok execution →
      ∀ row ∈ execution.table.rows, row.length = execution.table.headers.length) ∧
    (∀ made counts, plan.run inventory = .ok (.table made, counts) →
      ∀ key column, Table.columnIndex? made.headers key = some column →
        ∀ row ∈ made.rows, column < row.length) ∧
    ∀ query catalog defaultColumn, ofQuery query catalog defaultColumn = .ok plan →
      plan.Tabulates := by
  refine ⟨⟨?_, ?_⟩, ?_, ?_, ?_, fun _ _ _ => tabulates_of_ofQuery⟩
  · rintro ⟨execution, executed⟩
    exact (form_of_run_table (execute_eq_ok_iff.mp executed)).1
  · intro tabulates
    cases plan.runsTo inventory with
    | machines form => exact absurd tabulates form.not_tabulates
    | table _ made counts ran => exact ⟨⟨made, counts⟩, execute_eq_ok_iff.mpr ran⟩
    | refused _ noTable => exact absurd tabulates noTable
  · intro noTable
    cases plan.runsTo inventory with
    -- the machines come to the end without an error, and no table is found there
    | machines form found counts ran => exact ⟨_, by rw [execute, ran]; rfl, rfl⟩
    | table form => exact absurd form noTable
    | refused _ _ error ran kind => exact ⟨error, by rw [execute, ran]; rfl, kind⟩
  · intro execution executed
    exact (form_of_run_table (execute_eq_ok_iff.mp executed)).2
  · intro made counts ran key column found
    exact (form_of_run_table ran).2.columnIndex?_lt found

end Plan
end FleetQuery
