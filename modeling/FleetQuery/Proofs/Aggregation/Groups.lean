import FleetQuery.Execution
import FleetQuery.Proofs.Outcome
import Mathlib.Data.List.Induction
import Mathlib.Data.List.Nodup

/-!
# Groups as parts

The groups that one pass over the machines builds are the parts of the machines that share the text of
a field, in the order in which the texts first come, each aggregated on its own. A group can always be
started, as a function is registered under the name of every aggregation.
-/
namespace FleetQuery

/-! ### Functions by their names -/

theorem Aggregate.lowerAscii_name (aggregate : Aggregate) :
    Text.lowerAscii aggregate.name = aggregate.name := by
  cases aggregate <;> decide

/-- The registered functions are those of the aggregations, each under its name in any ASCII case. -/
theorem AggregateRegistry.get?_standard_eq_some_iff {name : String}
    {function : AggregateFunction} :
    standard.get? name = some function ↔ ∃ aggregate : Aggregate,
      Text.lowerAscii name = aggregate.name ∧ function = ⟨aggregate.name, .start aggregate⟩ := by
  simp only [standard, List.foldl_cons, List.foldl_nil, get?_register]
  constructor
  · intro found
    -- the functions are looked through from the one that was registered last
    split_ifs at found with isMax isMin isAvg isSum isCount
    · cases found; exact ⟨.max, isMax, rfl⟩
    · cases found; exact ⟨.min, isMin, rfl⟩
    · cases found; exact ⟨.avg, isAvg, rfl⟩
    · cases found; exact ⟨.sum, isSum, rfl⟩
    · cases found; exact ⟨.count, isCount, rfl⟩
    · cases found
  · rintro ⟨aggregate, named, rfl⟩
    cases aggregate <;> simp [named, Aggregate.name]

/-- A function is registered for every aggregation. -/
theorem AggregateRegistry.get?_standard_name (aggregate : Aggregate) :
    standard.get? aggregate.name = some ⟨aggregate.name, .start aggregate⟩ :=
  get?_standard_eq_some_iff.mpr ⟨aggregate, aggregate.lowerAscii_name, rfl⟩

theorem Aggregate.ofName?_eq_some_iff {name : String} {aggregate : Aggregate} :
    ofName? name = some aggregate ↔ Text.lowerAscii name = aggregate.name := by
  have started : ∀ other : Aggregate, (Accumulator.start other).aggregate = other := by
    intro other
    cases other <;> rfl
  rw [ofName?, Option.map_eq_some_iff]
  constructor
  · rintro ⟨function, found, rfl⟩
    obtain ⟨other, named, rfl⟩ := AggregateRegistry.get?_standard_eq_some_iff.mp found
    rw [started, named]
  · intro named
    exact ⟨_, AggregateRegistry.get?_standard_eq_some_iff.mpr ⟨aggregate, named, rfl⟩,
      started aggregate⟩

/-! ### One column -/

/-- The state of a column after one more machine. -/
def AggregateColumn.feed (column : AggregateColumn) (accumulator : Accumulator)
    (machine : Machine) : Accumulator :=
  match column.target with
  | some field => accumulator.addCell (machine.cell field)
  | none => accumulator.addRow

/-- The state of a column after all the machines. -/
def AggregateColumn.over (column : AggregateColumn) (machines : List Machine) : Accumulator :=
  machines.foldl column.feed (.start column.aggregate)

@[simp] theorem AggregateColumn.over_nil (column : AggregateColumn) :
    column.over [] = .start column.aggregate := rfl

@[simp] theorem AggregateColumn.over_concat (column : AggregateColumn) (machines : List Machine)
    (machine : Machine) :
    column.over (machines ++ [machine]) = column.feed (column.over machines) machine := by
  simp [AggregateColumn.over]

theorem update_columnCells (column : AggregateColumn) (accumulator : Accumulator)
    (machine : Machine) :
    accumulator.update (Table.columnCells column machine) =
      .ok (column.feed accumulator machine) := by
  cases targeted : column.target <;>
    simp [Table.columnCells, AggregateColumn.feed, targeted, Accumulator.update]

/-- Counting rows gives their number. -/
theorem AggregateColumn.over_count (column : AggregateColumn) (counting : column.aggregate = .count)
    (untargeted : column.target = none) (machines : List Machine) :
    column.over machines = .count machines.length := by
  induction machines using List.reverseRecOn with
  | nil => rw [over_nil, counting]; rfl
  | append_singleton machines machine ih =>
    rw [over_concat, ih, feed, untargeted, List.length_append]
    rfl

/-- Of all cells only a missing one has no text. -/
theorem Cell.toText?_eq_none_iff {cell : Cell} : cell.toText? = none ↔ cell = .null := by
  cases cell <;> simp [toText?]

namespace Table

/-- Every group can be started. -/
theorem startAll_eq_ok (columns : List AggregateColumn) :
    startAll columns = .ok (columns.map fun column => column.over []) :=
  mapM_eq_ok_map _ _ _ fun column _ => by
    rw [startColumn, AggregateRegistry.get?_standard_name, AggregateColumn.over_nil]

theorem updateAll_map (columns : List AggregateColumn) (machine : Machine)
    (state : AggregateColumn → Accumulator) :
    updateAll columns machine (columns.map state) =
      .ok (columns.map fun column => column.feed (state column) machine) := by
  -- each state stands beside its own column, so the updates are a traversal of the columns
  have paired : (columns.map state).zip columns =
      columns.map fun column => (state column, column) := by
    simpa using List.zip_map' (f := state) (g := id) (l := columns)
  rw [updateAll, paired, List.mapM_map]
  exact mapM_eq_ok_map _ _ _ fun column _ => by
    rw [Function.comp_apply, update_columnCells]
    rfl

/-! ### Keys and parts -/

/-- The distinct texts of a field in the order in which they first come. A missing cell has no text,
which is a key of its own. -/
def keysOf (field : Field) (machines : List Machine) : List (Option String) :=
  (machines.map fun machine => (machine.cell field).toText?).eraseDups

/-- The machines with one text of a field, in their order. -/
def membersOf (field : Field) (value : Option String) (machines : List Machine) : List Machine :=
  machines.filter fun machine => (machine.cell field).toText? == value

/-- The groups as the parts of the machines. Without a field to group by there is one part, whether
there are machines or not. -/
def parts (key : Option HeadedField) (columns : List AggregateColumn) (machines : List Machine) :
    List Group :=
  match key with
  | some ⟨_, field⟩ => (keysOf field machines).map fun value =>
      ⟨value, columns.map fun column => column.over (membersOf field value machines)⟩
  | none => [⟨none, columns.map fun column => column.over machines⟩]

theorem nodup_eraseDups {α : Type} [BEq α] [LawfulBEq α] (values : List α) :
    values.eraseDups.Nodup := by
  induction values using List.reverseRecOn with
  | nil => simp
  | append_singleton values value ih =>
    rw [List.eraseDups_append]
    -- the new value comes after the others, and only if it is not one of them
    refine List.Nodup.append ih ?_ ?_
    · by_cases member : value ∈ values <;> simp [List.removeAll, member, List.eraseDups_cons]
    · intro other old fresh
      simp only [List.removeAll, List.mem_eraseDups, List.mem_filter, List.mem_singleton]
        at old fresh
      simp [old] at fresh

section

variable (field : Field) (value : Option String) (machines : List Machine) (machine : Machine)

theorem nodup_keysOf : (keysOf field machines).Nodup := nodup_eraseDups _

theorem toText?_mem_keysOf (member : machine ∈ machines) :
    (machine.cell field).toText? ∈ keysOf field machines := by
  rw [keysOf, List.mem_eraseDups]
  exact List.mem_map_of_mem member

theorem keysOf_concat :
    keysOf field (machines ++ [machine]) =
      if (machine.cell field).toText? ∈ keysOf field machines then keysOf field machines
      else keysOf field machines ++ [(machine.cell field).toText?] := by
  simp only [keysOf, List.map_append, List.map_cons, List.map_nil, List.eraseDups_append,
    List.mem_eraseDups]
  -- a text that came before is not listed again
  by_cases member : (machine.cell field).toText? ∈
      machines.map fun machine => (machine.cell field).toText?
  · simp only [List.removeAll, List.filter_cons, List.elem_eq_mem, member, if_true]
    simp
  · simp only [List.removeAll, List.filter_cons, List.elem_eq_mem, member, if_false]
    simp [List.eraseDups_cons]

theorem membersOf_concat :
    membersOf field value (machines ++ [machine]) =
      if value = (machine.cell field).toText? then membersOf field value machines ++ [machine]
      else membersOf field value machines := by
  by_cases same : value = (machine.cell field).toText?
  · simp [membersOf, same]
  · have other : ¬ (machine.cell field).toText? = value := fun equal => same equal.symm
    simp [membersOf, same, other]

theorem membersOf_eq_nil (absent : value ∉ keysOf field machines) :
    membersOf field value machines = [] := by
  rw [membersOf, List.filter_eq_nil_iff]
  intro machine member same
  rw [beq_iff_eq] at same
  exact absent (same ▸ toText?_mem_keysOf field machines machine member)

/-- The parts of distinct keys are together the machines with one of these keys. -/
theorem flatMap_membersOf_perm (values : List (Option String)) (distinct : values.Nodup) :
    (values.flatMap fun value => membersOf field value machines).Perm
      (machines.filter fun machine => decide ((machine.cell field).toText? ∈ values)) := by
  induction values with
  | nil => simp
  | cons value rest ih =>
    obtain ⟨fresh, distinct⟩ := List.nodup_cons.mp distinct
    -- the machines with one of the keys are those with the first and, apart from them, the others
    let kept := machines.filter fun machine =>
      decide ((machine.cell field).toText? ∈ value :: rest)
    have first : membersOf field value machines =
        kept.filter fun machine => (machine.cell field).toText? == value := by
      rw [List.filter_filter]
      refine List.filter_congr fun machine _ => ?_
      by_cases same : (machine.cell field).toText? = value <;> simp [same]
    have others : (machines.filter fun machine => decide ((machine.cell field).toText? ∈ rest)) =
        kept.filter fun machine => !((machine.cell field).toText? == value) := by
      rw [List.filter_filter]
      refine List.filter_congr fun machine _ => ?_
      by_cases same : (machine.cell field).toText? = value <;> simp [same, fresh]
    rw [List.flatMap_cons, first]
    refine ((ih distinct).append_left _).trans ?_
    rw [others]
    exact List.filter_append_perm _ kept

/-- Every machine is in the part of exactly one key. -/
theorem flatMap_keysOf_perm :
    ((keysOf field machines).flatMap fun value => membersOf field value machines).Perm
      machines := by
  refine (flatMap_membersOf_perm field machines _ (nodup_keysOf field machines)).trans ?_
  rw [List.filter_eq_self.mpr]
  intro machine member
  simpa using toText?_mem_keysOf field machines machine member

end

/-! ### One pass over the machines -/

/-- One machine changes the group of its key and no other. -/
theorem addToGroup_map (columns : List AggregateColumn) (value : Option String) (machine : Machine)
    (state : Option String → AggregateColumn → Accumulator) (values : List (Option String))
    (distinct : values.Nodup)
    (fresh : value ∉ values → state value = fun column => column.over []) :
    addToGroup columns value machine
        (values.map fun other => ⟨other, columns.map (state other)⟩) =
      .ok ((if value ∈ values then values else values ++ [value]).map fun other =>
        ⟨other, columns.map fun column =>
          if other = value then column.feed (state other column) machine
          else state other column⟩) := by
  induction values with
  | nil =>
    -- the key is new: its group is started and takes the machine
    have started : startAll columns = .ok (columns.map (state value)) := by
      rw [startAll_eq_ok, fresh List.not_mem_nil]
    simp [addToGroup, started, updateAll_map, bind, Except.bind, pure, Except.pure]
  | cons first rest ih =>
    obtain ⟨absent, distinct⟩ := List.nodup_cons.mp distinct
    rw [List.map_cons, addToGroup]
    by_cases same : first = value
    · subst same
      -- keys are distinct, so no later group has this key
      have untouched : ∀ other ∈ rest, ¬ other = first := fun other member equal =>
        absent (equal ▸ member)
      simp only [if_true, updateAll_map, bind, Except.bind, pure, Except.pure, List.mem_cons,
        true_or, List.map_cons, Except.ok.injEq, List.cons.injEq, true_and]
      refine List.map_congr_left fun other member => ?_
      simp [untouched other member]
    · have other : ¬ value = first := fun equal => same equal.symm
      have step := ih distinct fun missing => fresh (by simp [other, missing])
      simp only [same, if_false, step, bind, Except.bind, pure, Except.pure, List.mem_cons, other,
        false_or]
      split <;> simp [same]

theorem addToGroup_parts (key : Option HeadedField) (columns : List AggregateColumn)
    (machines : List Machine) (machine : Machine) :
    addToGroup columns (keyOf key machine) machine (parts key columns machines) =
      .ok (parts key columns (machines ++ [machine])) := by
  cases key with
  | none =>
    -- the one group is there from the start, so no machine begins another
    have step := addToGroup_map columns none machine (fun _ column => column.over machines) [none]
      (List.nodup_singleton none) fun absent => absurd (List.mem_singleton.mpr rfl) absent
    simpa [parts, keyOf] using step
  | some column =>
    obtain ⟨_, field⟩ := column
    have step := addToGroup_map columns (machine.cell field).toText? machine
      (fun value column => column.over (membersOf field value machines)) (keysOf field machines)
      (nodup_keysOf field machines) fun absent => by
        rw [membersOf_eq_nil field _ machines absent]
    -- both sides list the keys of all the machines; the states agree key by key
    simp only [parts, keyOf, Option.bind_some, step, keysOf_concat, membersOf_concat]
    refine congrArg Except.ok (List.map_congr_left fun value _ => ?_)
    by_cases same : value = (machine.cell field).toText? <;> simp [same]

theorem firstGroups_eq_parts (key : Option HeadedField) (columns : List AggregateColumn) :
    firstGroups key columns = .ok (parts key columns []) := by
  cases key with
  | none => rw [firstGroups, startAll_eq_ok]; rfl
  | some column => rfl

/-- The groups after a pass are the parts of the machines. -/
theorem groups_eq_parts (key : Option HeadedField) (columns : List AggregateColumn)
    (machines : List Machine) : groups key columns machines = .ok (parts key columns machines) := by
  -- the pass takes the machines from the front, so the last of them is the step of the induction
  induction machines using List.reverseRecOn with
  | nil => rw [groups, firstGroups_eq_parts]; rfl
  | append_singleton machines machine ih =>
    rw [groups, firstGroups_eq_parts] at ih ⊢
    simp only [bind, Except.bind] at ih ⊢
    rw [List.foldlM_append, ih]
    simp only [bind, Except.bind, List.foldlM_cons, List.foldlM_nil, addToGroup_parts]
    rfl

/-! ### The table -/

/-- The cells of the columns over machines. -/
def cellsOver (columns : List AggregateColumn) (machines : List Machine) : List Json :=
  columns.map fun column => (column.over machines).result

/-- The table of the parts. With a field to group by there is a row for each of its texts, which
stands in front; without one there is one row. -/
def ofParts (key : Option HeadedField) (columns : List AggregateColumn) (machines : List Machine) :
    Table :=
  match key with
  | some ⟨header, field⟩ =>
    { headers := header :: columns.map AggregateColumn.header
      rows := (keysOf field machines).map fun value =>
        value.elim .null .string :: cellsOver columns (membersOf field value machines) }
  | none =>
    { headers := columns.map AggregateColumn.header
      rows := [cellsOver columns machines] }

theorem aggregated_eq_ofParts (key : Option HeadedField) (columns : List AggregateColumn)
    (machines : List Machine) :
    aggregated key columns machines = .ok (ofParts key columns machines) := by
  have shown : ∀ value : Option String,
      Json.ofOption .string value = value.elim .null .string := by
    intro value
    cases value <;> rfl
  rw [aggregated, groups_eq_parts]
  cases key <;> simp [Except.map, ofParts, parts, groupRow, cellsOver, shown]

end Table
end FleetQuery
