import FleetQuery.Proofs.Table.Order
import FleetQuery.Proofs.Text.Words

/-!
# Columns and rows sorted by them

A key names the columns whose headers have its words, whatever the case and the blanks, and a table is
sorted by the first of them. Sorted rows are in a total preorder of their cells, and equal ones stand
as they stood. The direction turns the order of the cells that are there, while missing ones come last
in both. Main statements: `sortBy_of_named` and `sortBy_of_unnamed`.
-/
namespace FleetQuery.Table

/-! ### Missing cells -/

theorem compareCells_null (ascending : Bool) (cell : Json) :
    (compareCells ascending .null cell).isLE ↔ cell = .null := by
  cases cell <;> simp [compareCells]

/-- Rows in order of their cells end with those that miss it. -/
theorem exists_missing_last {column : Nat} {ascending : Bool} {rows : List (List Json)}
    (ordered : rows.Pairwise fun left right => (compareRows column ascending left right).isLE) :
    ∃ present missing, rows = present ++ missing ∧
      (∀ row ∈ present, row.getD column .null ≠ .null) ∧
      ∀ row ∈ missing, row.getD column .null = .null := by
  induction rows with
  | nil => exact ⟨[], [], rfl, List.forall_mem_nil _, List.forall_mem_nil _⟩
  | cons row rest ih =>
    obtain ⟨least, later⟩ := List.pairwise_cons.mp ordered
    by_cases absent : row.getD column .null = .null
    · -- nothing but missing cells comes after a missing one
      refine ⟨[], row :: rest, rfl, List.forall_mem_nil _, List.forall_mem_cons.mpr ⟨absent, ?_⟩⟩
      intro other member
      have level := least other member
      rwa [compareRows, absent, compareCells_null] at level
    · obtain ⟨present, missing, rfl, shown, absents⟩ := ih later
      exact ⟨row :: present, missing, rfl, List.forall_mem_cons.mpr ⟨absent, shown⟩, absents⟩

/-! ### Sorted rows -/

/-- What sorting makes of rows: a stable sort by the cells of a column, with the missing ones last and
the others in the order of the direction. -/
structure SortedBy (column : Nat) (ascending : Bool) (rows sorted : List (List Json)) : Prop
    extends IsStableSort (compareRows column ascending) rows sorted where
  missingLast : ∃ present missing, sorted = present ++ missing ∧
    (∀ row ∈ present, row.getD column .null ≠ .null) ∧
    (∀ row ∈ missing, row.getD column .null = .null) ∧
    present.Pairwise fun left right =>
      (if ascending then compareRows column true left right
        else (compareRows column true left right).swap).isLE

theorem sortedBy_sortRows (column : Nat) (ascending : Bool) (rows : List (List Json)) :
    SortedBy column ascending rows (sortRows column ascending rows) := by
  have sorts := isStableSort_sortRows column ascending rows
  obtain ⟨present, missing, split, shown, absent⟩ := exists_missing_last sorts.ordered
  refine ⟨sorts, present, missing, split, shown, absent, ?_⟩
  -- the rows before the missing ones are still in order, now with a cell on either side
  have ordered := sorts.ordered
  rw [split] at ordered
  refine (List.pairwise_append.mp ordered).1.imp_of_mem fun {left right} first second level => ?_
  rwa [compareRows, compareCells_of_present (shown left first) (shown right second)] at level

/-! ### Columns by their headers -/

/-- Whether a header and a key have the same words, whatever their case and the blanks around them. -/
def NamedAlike (header key : String) : Prop :=
  (Text.words header).map Text.lower = (Text.words key).map Text.lower

theorem normalizeHeader_eq_iff {header key : String} :
    normalizeHeader header = normalizeHeader key ↔ NamedAlike header key :=
  Text.lower_squeeze_eq_iff header key

/-- Whether a column is the first one that a key names. -/
structure IsFirstNamed (headers : List String) (key : String) (column : Nat) : Prop where
  named : ∃ header, headers[column]? = some header ∧ NamedAlike header key
  first : ∀ earlier header, earlier < column → headers[earlier]? = some header →
    ¬ NamedAlike header key

theorem columnIndex?_eq_some_iff {headers : List String} {key : String} {column : Nat} :
    columnIndex? headers key = some column ↔ IsFirstNamed headers key column := by
  have alike : ∀ header, normalizeHeader header == normalizeHeader key ↔ NamedAlike header key :=
    fun header => beq_iff_eq.trans normalizeHeader_eq_iff
  rw [columnIndex?, List.findIdx?_eq_some_iff_getElem]
  constructor
  · rintro ⟨inside, named, first⟩
    refine ⟨⟨headers[column], List.getElem?_eq_getElem inside, (alike _).mp named⟩, ?_⟩
    intro earlier header before here
    obtain ⟨_, rfl⟩ := List.getElem?_eq_some_iff.mp here
    exact (alike _).not.mp (first earlier before)
  · rintro ⟨⟨header, here, named⟩, first⟩
    obtain ⟨inside, rfl⟩ := List.getElem?_eq_some_iff.mp here
    refine ⟨inside, (alike _).mpr named, fun earlier before => (alike _).not.mpr ?_⟩
    exact first earlier _ before (List.getElem?_eq_getElem (Nat.lt_trans before inside))

theorem columnIndex?_eq_none_iff {headers : List String} {key : String} :
    columnIndex? headers key = none ↔ ∀ header ∈ headers, ¬ NamedAlike header key := by
  simp [columnIndex?, List.findIdx?_eq_none_iff, normalizeHeader_eq_iff]

/-! ### Sorted tables -/

theorem headers_sortBy (table : Table) (key : String) (ascending : Bool) :
    (table.sortBy key ascending).headers = table.headers := by
  rw [sortBy]
  split <;> rfl

section

variable {table : Table} {key : String}

theorem sortBy_of_named {column : Nat} (named : IsFirstNamed table.headers key column)
    (ascending : Bool) :
    SortedBy column ascending table.rows (table.sortBy key ascending).rows := by
  rw [sortBy, columnIndex?_eq_some_iff.mpr named]
  exact sortedBy_sortRows column ascending table.rows

theorem sortBy_of_unnamed (unnamed : ∀ header ∈ table.headers, ¬ NamedAlike header key)
    (ascending : Bool) : table.sortBy key ascending = table := by
  rw [sortBy, columnIndex?_eq_none_iff.mpr unnamed]

end

end FleetQuery.Table
