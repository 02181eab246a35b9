import FleetQuery.Proofs.Aggregation.Groups
import Mathlib.Algebra.Ring.Nat

/-!
# Aggregation by a key

Grouped aggregation is ungrouped aggregation of each part of the machines that share a key. Main
statement: `aggregated_partition`.
-/
namespace FleetQuery.Table

theorem cellsOver_getElem? (columns : List AggregateColumn) (machines : List Machine) (place : Nat)
    (column : AggregateColumn) (there : columns[place]? = some column) :
    (cellsOver columns machines)[place]? = some (column.over machines).result := by
  simp [cellsOver, there]

/-- The sizes of the parts add up to the number of machines. -/
theorem sum_length_membersOf (field : Field) (machines : List Machine) :
    ((keysOf field machines).map fun value => (membersOf field value machines).length).sum =
      machines.length := by
  have together := (flatMap_keysOf_perm field machines).length_eq
  rwa [List.length_flatMap] at together

/-- Aggregation by a key makes one row for each text of its field, in the order in which the texts
first come: the text and then the row that aggregation without a key makes of the machines with that
text. The machines without a value have a row of their own. Aggregation without a key always makes one
row. Each machine is in one part, so the cells of `count()` add up to the number of machines. -/
theorem aggregated_partition (key : HeadedField) (columns : List AggregateColumn)
    (machines : List Machine) :
    ∃ cells : List Machine → List Json,
      (∀ part, aggregated none columns part =
        .ok { headers := columns.map AggregateColumn.header, rows := [cells part] }) ∧
      ∃ values rows,
        aggregated (some key) columns machines =
          .ok { headers := key.header :: columns.map AggregateColumn.header, rows := rows } ∧
        values = (machines.map fun machine => (machine.cell key.field).toText?).eraseDups ∧
        (∀ machine : Machine, (machine.cell key.field).toText? = none ↔
          machine.cell key.field = .null) ∧
        rows = values.map (fun value => value.elim Json.null Json.string ::
          cells (machines.filter fun machine => (machine.cell key.field).toText? == value)) ∧
        values.Nodup ∧
        (values.flatMap fun value =>
          machines.filter fun machine => (machine.cell key.field).toText? == value).Perm machines ∧
        ∀ place column, columns[place]? = some column → column.aggregate = .count →
          column.target = none →
          ∃ counts : List Nat,
            rows.map (fun row => row[place + 1]?) =
              counts.map (fun count : Nat => some (Json.number (.integer count))) ∧
            counts.sum = machines.length := by
  refine ⟨cellsOver columns, aggregated_eq_ofParts none columns, keysOf key.field machines, _,
    aggregated_eq_ofParts (some key) columns machines, rfl, fun _ => Cell.toText?_eq_none_iff, rfl,
    nodup_keysOf key.field machines, flatMap_keysOf_perm key.field machines, ?_⟩
  intro place column there counting untargeted
  refine ⟨(keysOf key.field machines).map fun value =>
    (membersOf key.field value machines).length, ?_, sum_length_membersOf key.field machines⟩
  rw [List.map_map, List.map_map]
  -- in the row of a key, the cell of the column is the size of its part
  refine List.map_congr_left fun value _ => ?_
  have cell := cellsOver_getElem? columns (membersOf key.field value machines) place column there
  rw [column.over_count counting untargeted] at cell
  simpa [Accumulator.result, Json.ofNat] using cell

end FleetQuery.Table
