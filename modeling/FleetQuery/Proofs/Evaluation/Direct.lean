import FleetQuery.Planning
import FleetQuery.Proofs.Aggregation.Groups
import FleetQuery.Proofs.Question.Resolution
import FleetQuery.Proofs.Table.Columns

/-!
# Direct evaluation

The answer to a query said of the machines themselves, without a plan: which machines are in scope,
which of them pass the filters, the table that they make, its order and how much of it is kept.
-/
namespace FleetQuery

/-- The field of a label that the catalog knows. -/
def Catalog.fieldOf (catalog : Catalog) (label : String) : Field :=
  (catalog.field? label).getD .computerName

theorem Catalog.field?_eq_some {catalog : Catalog} {label : String}
    (known : (catalog.field? label).isSome) :
    catalog.field? label = some (catalog.fieldOf label) := by
  obtain ⟨field, found⟩ := Option.isSome_iff_exists.mp known
  rw [fieldOf, found, Option.getD_some]

namespace Query

/-- The machines that the scope selects, in the order of the inventory. -/
def inScope (query : Query) (machines : List Machine) : List Machine :=
  match query.scope.groupName? with
  | some group => machines.filter fun machine => machine.groupName = some group
  | none => machines

/-- The machines in scope that pass every filter. -/
def selected (query : Query) (machines : List Machine) : List Machine :=
  (query.inScope machines).filter fun machine =>
    query.filters.all fun filter => filter.matches machine

/-- The labels that head a table without aggregations. -/
def shownLabels (query : Query) (defaultColumn : String) : List String :=
  if query.columns = [] then [defaultColumn] else query.columns.map Column.label

/-- An aggregate call with the field that its target names. -/
def aggregateColumn? (catalog : Catalog) (call : AggregateCall) : Option AggregateColumn := do
  let target ← call.target.mapM fun column => catalog.field? column.label
  return ⟨call.aggregate, target, call.header⟩

/-- The field of the group by, under its label. -/
def groupKey? (query : Query) (catalog : Catalog) : Option (Option HeadedField) :=
  query.groupBy.mapM fun groupBy =>
    (catalog.field? groupBy.column.label).map fun field => ⟨groupBy.column.label, field⟩

/-- The table of the selected machines before it is sorted and cut. Without aggregations it has a row
for each machine, and a group by has no part in it. There is no table if a label is unknown. -/
def tabulate? (query : Query) (catalog : Catalog) (defaultColumn : String)
    (machines : List Machine) : Option Table :=
  if query.aggregations = [] then do
    let labels := query.shownLabels defaultColumn
    let fields ← labels.mapM catalog.field?
    return {
      headers := labels
      rows := machines.map fun machine => fields.map fun field => (machine.cell field).toJson }
  else do
    let columns ← query.aggregations.mapM (aggregateColumn? catalog)
    let key ← query.groupKey? catalog
    return Table.ofParts key columns machines

/-- Whether `rows` are the rows of the table in the order that the query asks for: sorted by the first
column that its label names, or as they are if it names no column. -/
def IsOrdered (query : Query) (table : Table) (rows : List (List Json)) : Prop :=
  match query.orderBy with
  | some order =>
    (∀ column, Table.IsFirstNamed table.headers order.column.label column →
      Table.SortedBy column order.ascending table.rows rows) ∧
    ((∀ header ∈ table.headers, ¬ Table.NamedAlike header order.column.label) →
      rows = table.rows)
  | none => rows = table.rows

/-- The rows that the limit leaves. -/
def cut (query : Query) (rows : List (List Json)) : List (List Json) :=
  match query.limit with
  | some limit => rows.take limit
  | none => rows

/-- How many machines are in scope, and how many of these pass the filters. -/
def counts (query : Query) (machines : List Machine) : Counts :=
  ⟨(query.inScope machines).length, (query.selected machines).length⟩

/-- Whether an execution has the table and the counts of direct evaluation. -/
def IsResult (query : Query) (catalog : Catalog) (defaultColumn : String)
    (machines : List Machine) (execution : Execution) : Prop :=
  ∃ table rows,
    query.tabulate? catalog defaultColumn (query.selected machines) = some table ∧
    query.IsOrdered table rows ∧
    execution.table = ⟨table.headers, query.cut rows⟩ ∧
    execution.counts = query.counts machines

/-! ### Labels that are known -/

section

variable {catalog : Catalog} {query : Query}

/-- An aggregate call with the field of a known target. -/
def aggregateColumnOf (catalog : Catalog) (call : AggregateCall) : AggregateColumn :=
  ⟨call.aggregate, call.target.map fun column => catalog.fieldOf column.label, call.header⟩

/-- The field of a known group by, under its label. -/
def groupKeyOf (query : Query) (catalog : Catalog) : Option HeadedField :=
  query.groupBy.map fun groupBy => ⟨groupBy.column.label, catalog.fieldOf groupBy.column.label⟩

/-- The known labels of a table without aggregations with their fields. -/
def headedFields (query : Query) (catalog : Catalog) (defaultColumn : String) : List HeadedField :=
  (query.shownLabels defaultColumn).map fun label => ⟨label, catalog.fieldOf label⟩

/-- The labels of a table without aggregations are known if the columns are, and the default column
where it is shown. -/
theorem shownLabels_known (resolved : query.Resolved catalog) {defaultColumn : String}
    (known : query.columns = [] → (catalog.field? defaultColumn).isSome) :
    ∀ label ∈ query.shownLabels defaultColumn, (catalog.field? label).isSome := by
  intro label shown
  by_cases bare : query.columns = []
  · simp only [shownLabels, bare, if_true, List.mem_singleton] at shown
    exact shown ▸ known bare
  · simp only [shownLabels, bare, if_false, List.mem_map] at shown
    obtain ⟨column, member, rfl⟩ := shown
    exact resolved.columns column member

theorem aggregateColumn?_eq_some (resolved : query.Resolved catalog) :
    ∀ call ∈ query.aggregations,
      aggregateColumn? catalog call = some (aggregateColumnOf catalog call) := by
  intro call member
  cases targeted : call.target with
  | none => simp [aggregateColumn?, aggregateColumnOf, targeted]
  | some target =>
    have known := Catalog.field?_eq_some (resolved.targets call member target targeted)
    simp [aggregateColumn?, aggregateColumnOf, targeted, known]

theorem groupKey?_eq_some (resolved : query.Resolved catalog) :
    query.groupKey? catalog = some (query.groupKeyOf catalog) := by
  cases grouped : query.groupBy with
  | none => simp [groupKey?, groupKeyOf, grouped]
  | some groupBy =>
    have known := Catalog.field?_eq_some (resolved.groupBy groupBy grouped)
    simp [groupKey?, groupKeyOf, grouped, known]

/-- The table of a query whose labels are known. -/
theorem tabulate?_eq_some (resolved : query.Resolved catalog) {defaultColumn : String}
    (known : query.columns = [] → query.aggregations = [] →
      (catalog.field? defaultColumn).isSome) (machines : List Machine) :
    query.tabulate? catalog defaultColumn machines = some
      (if query.aggregations = [] then
        Table.ofColumns (query.headedFields catalog defaultColumn) machines
      else
        Table.ofParts (query.groupKeyOf catalog)
          (query.aggregations.map (aggregateColumnOf catalog)) machines) := by
  -- only a table without aggregations shows the default column
  by_cases plain : query.aggregations = []
  · have labels := shownLabels_known resolved fun bare => known bare plain
    have fields : (query.shownLabels defaultColumn).mapM catalog.field? =
        some ((query.shownLabels defaultColumn).map catalog.fieldOf) :=
      mapM_eq_some_map _ _ _ fun label shown => Catalog.field?_eq_some (labels label shown)
    simp [tabulate?, plain, fields, Table.ofColumns, headedFields, Function.comp_def]
  · have columns := mapM_eq_some_map _ _ _ (aggregateColumn?_eq_some resolved)
    simp [tabulate?, plain, columns, groupKey?_eq_some resolved]

end

end Query
end FleetQuery
