import FleetQuery.Proofs.Evaluation.Forms
import FleetQuery.Proofs.Table.Columns

/-!
# Sorted tables

The step that sorts a table sorts its rows by the first column that the key names, and keeps them as
they are if there is none; the step that cuts it takes the first of them. Main statement:
`sortBy_orders_rows`.
-/
namespace FleetQuery.Table

/-! ### Steps on a table -/

theorem length_rows_sortBy (table : Table) (key : String) (ascending : Bool) :
    (table.sortBy key ascending).rows.length = table.rows.length := by
  rw [sortBy]
  split
  next column _ => exact (isStableSort_sortRows column ascending table.rows).perm.length_eq
  next => rfl

/-- Where a plan makes a table, the steps that sort and cut it make the table sorted and cut. -/
theorem run_sort_limit {plan : Plan} {inventory : Inventory} {table : Table} {counts : Counts}
    (made : plan.run inventory = .ok (.table table, counts)) (key : String) (ascending : Bool)
    (rows : Nat) :
    (plan.sort key ascending).run inventory = .ok (.table (table.sortBy key ascending), counts) ∧
    ((plan.sort key ascending).limit rows).run inventory =
      .ok (.table ((table.sortBy key ascending).take rows), counts) := by
  have sorted : (plan.sort key ascending).run inventory =
      .ok (.table (table.sortBy key ascending), counts) := by
    rw [Plan.run, made]
    rfl
  refine ⟨sorted, ?_⟩
  rw [Plan.run, sorted]
  rfl

/-- Sorting keeps the headers, and the rows too if no header is the key but for case and blanks.
Otherwise the rows are a stable sort by the first such column, in which missing cells come last in
both directions. Limiting the sorted table takes its first rows, as many as there are. -/
theorem sortBy_orders_rows (table : Table) (rectangular : table.IsRectangular) (key : String)
    (ascending : Bool) :
    (table.sortBy key ascending).headers = table.headers ∧
    ((∀ header ∈ table.headers, ¬ NamedAlike header key) →
      (table.sortBy key ascending).rows = table.rows) ∧
    (∀ column, IsFirstNamed table.headers key column →
      (∀ row ∈ table.rows, column < row.length) ∧
      SortedBy column ascending table.rows (table.sortBy key ascending).rows) ∧
    ∀ (plan : Plan) inventory counts, plan.run inventory = .ok (.table table, counts) →
      (plan.sort key ascending).run inventory = .ok (.table (table.sortBy key ascending), counts) ∧
      ∀ rows, ∃ cut, ((plan.sort key ascending).limit rows).run inventory =
          .ok (.table cut, counts) ∧ cut.headers = table.headers ∧
        cut.rows = (table.sortBy key ascending).rows.take rows ∧
        cut.rows.length = min rows table.rows.length := by
  refine ⟨headers_sortBy table key ascending, ?_, ?_, ?_⟩
  · intro unnamed
    rw [sortBy_of_unnamed unnamed]
  · intro column named
    exact ⟨rectangular.columnIndex?_lt (columnIndex?_eq_some_iff.mpr named),
      sortBy_of_named named ascending⟩
  · intro plan inventory counts made
    refine ⟨(run_sort_limit made key ascending 0).1, fun rows => ?_⟩
    refine ⟨_, (run_sort_limit made key ascending rows).2, headers_sortBy table key ascending, rfl,
      ?_⟩
    rw [take, List.length_take, length_rows_sortBy]

/-- In descending order texts come before truth values, level ones as they stood, and the missing
cell still comes last. The names of the rows stand in no order. -/
theorem sortBy_orders_rows_sample :
    let table : Table := ⟨["name", "Last  Seen"],
      [[.string "b", .null], [.string "d", .string "x"], [.string "c", .bool true],
        [.string "a", .string "x"]]⟩
    table.IsRectangular ∧ IsFirstNamed table.headers " last seen" 1 ∧
      SortedBy 1 false table.rows (table.sortBy " last seen" false).rows ∧
      (table.sortBy " last seen" false).rows =
        [[.string "d", .string "x"], [.string "a", .string "x"], [.string "c", .bool true],
          [.string "b", .null]] := by
  intro table
  have rectangular : table.IsRectangular := by simp [IsRectangular, table]
  have named : IsFirstNamed table.headers " last seen" 1 :=
    columnIndex?_eq_some_iff.mp (by decide +kernel)
  have found : columnIndex? ["name", "Last  Seen"] " last seen" = some 1 :=
    columnIndex?_eq_some_iff.mpr named
  -- sorting does not compute by itself, so the comparisons that decide are given to it
  have level : Text.compareText "x" "x" = .eq := by decide
  have kinds : compare 1 3 = Ordering.lt := by decide
  refine ⟨rectangular, named,
    ((sortBy_orders_rows table rectangular " last seen" false).2.2.1 1 named).2, ?_⟩
  simp [table, sortBy, found, sortRows, List.mergeSort, List.MergeSort.Internal.splitInTwo,
    compareCells, comparePresent, kindRank, level, kinds]

end FleetQuery.Table
