import FleetQuery.Table

/-!
# The order of rows

Cells are totally preordered in both directions, so sorting by a column is a stable sort. Main
statements: `compareCells_isTotalPreorder` and `isStableSort_sortRows`.
-/
namespace FleetQuery

open Std (TransCmp OrientedCmp)

/-- A comparison in which any two values are in order, and level ones cannot be told apart. -/
structure IsTotalPreorder {α : Type} (cmp : α → α → Ordering) : Prop where
  refl : ∀ a, cmp a a = .eq
  swap : ∀ a b, cmp b a = (cmp a b).swap
  trans : ∀ a b c, (cmp a b).isLE → (cmp b c).isLE → (cmp a c).isLE
  level : ∀ a b, cmp a b = .eq → ∀ c, cmp a c = cmp b c ∧ cmp c a = cmp c b

theorem isTotalPreorder_of_transCmp {α : Type} (cmp : α → α → Ordering) [TransCmp cmp] :
    IsTotalPreorder cmp where
  refl _ := Std.ReflCmp.compare_self
  swap _ _ := OrientedCmp.eq_swap
  trans _ _ _ := TransCmp.isLE_trans
  level _ _ same _ := ⟨TransCmp.congr_left same, TransCmp.congr_right same⟩

/-- An order of values seen through a function. -/
theorem transCmp_comap {α β : Type} (f : α → β) (cmp : β → β → Ordering) [TransCmp cmp] :
    TransCmp fun left right => cmp (f left) (f right) where
  eq_swap := OrientedCmp.eq_swap
  isLE_trans := TransCmp.isLE_trans

namespace Text

theorem compareChars_eq_compareLex (left right : List Char) :
    compareChars left right =
      List.compareLex compare (left.map Char.toNat) (right.map Char.toNat) := by
  induction left generalizing right with
  | nil => cases right <;> rfl
  | cons c rest ih =>
    cases right with
    | nil => rfl
    | cons d others => simp [compareChars, List.compareLex_cons_cons, ih]

theorem compareText_eq_compareOn :
    compareText = compareOn fun text : String => text.toList.map Char.toNat := by
  funext left right
  exact compareChars_eq_compareLex left.toList right.toList

instance : TransCmp compareText := by
  rw [compareText_eq_compareOn]
  infer_instance

end Text

namespace Binary64

theorem compareTotal_eq_compareLex :
    compareTotal = compareLex (compareOn fun value => value.place.isNone)
      (compareOn fun value => value.place.getD 0) := by
  funext left right
  cases l : left.place <;> cases r : right.place <;>
    simp [compareTotal, compareLex, compareOn, l, r, compare, compareOfLessAndEq]

instance : TransCmp compareTotal := by
  rw [compareTotal_eq_compareLex]
  infer_instance

end Binary64

namespace Table

/-! ### Cells -/

/-- The number of a numeric cell. -/
def numberOf : Json → Binary64
  | .number value => value.toBinary64
  | _ => .zero false

/-- The text of a textual cell. -/
def textOf : Json → String
  | .string text => text
  | _ => ""

/-- The place of a truth value. -/
def truthOf : Json → Nat
  | .bool value => value.toNat
  | _ => 0

/-- Cells that are not missing are ordered by their kind and then within it. -/
theorem comparePresent_eq_compareLex :
    comparePresent = compareLex (compareOn kindRank)
      (compareLex (fun left right => (numberOf left).compareTotal (numberOf right))
        (compareLex (fun left right => Text.compareText (textOf left) (textOf right))
          (compareOn truthOf))) := by
  have number : ∀ value : Binary64, value.compareTotal value = .eq := fun _ =>
    Std.ReflCmp.compare_self
  have text : ∀ value : String, Text.compareText value value = .eq := fun _ =>
    Std.ReflCmp.compare_self
  funext left right
  -- within a kind one of the three orders decides and the others are level
  cases left <;> cases right <;>
    simp [comparePresent, compareLex, compareOn, kindRank, numberOf, textOf, truthOf, number, text]
    <;> rfl

instance : TransCmp comparePresent := by
  have number := transCmp_comap numberOf Binary64.compareTotal
  have text := transCmp_comap textOf Text.compareText
  rw [comparePresent_eq_compareLex]
  infer_instance

/-- Missing cells come last, and the others in the order of the direction. -/
theorem compareCells_eq_compareLex (ascending : Bool) :
    compareCells ascending = compareLex (compareOn fun cell => kindRank cell == 0)
      (if ascending then comparePresent else fun left right => comparePresent right left) := by
  funext left right
  have swapped : comparePresent right left = (comparePresent left right).swap :=
    OrientedCmp.eq_swap
  cases ascending <;> cases left <;> cases right <;>
    first | rfl | exact swapped.symm

instance (ascending : Bool) : TransCmp (compareCells ascending) := by
  rw [compareCells_eq_compareLex]
  cases ascending <;> simp only [if_true, Bool.false_eq_true, if_false] <;> infer_instance

/-- Where a cell is there, the direction turns the ascending order. -/
theorem compareCells_of_present {left right : Json} (first : left ≠ .null) (second : right ≠ .null)
    (ascending : Bool) :
    compareCells ascending left right =
      if ascending then compareCells true left right else (compareCells true left right).swap := by
  cases left <;> cases right <;> cases ascending <;> first | rfl | contradiction

/-- Cells of any kind and nesting are totally preordered in both directions. A missing cell is above
every other one in both, and among the others the descending order is the ascending one reversed. -/
theorem compareCells_isTotalPreorder :
    (∀ ascending, IsTotalPreorder (compareCells ascending)) ∧
    (∀ ascending cell, cell ≠ .null →
      compareCells ascending .null cell = .gt ∧ compareCells ascending cell .null = .lt) ∧
    ∀ left right, left ≠ .null → right ≠ .null →
      compareCells false left right = (compareCells true left right).swap := by
  refine ⟨fun ascending => isTotalPreorder_of_transCmp _, fun ascending cell present => ?_,
    fun left right first second => compareCells_of_present first second false⟩
  cases cell with
  | null => contradiction
  | _ => exact ⟨rfl, rfl⟩

/-- Any two lists are level, and so they compare alike with every other cell; a missing one is above
both in the descending order too. -/
theorem compareCells_isTotalPreorder_lists :
    compareCells false (.array [.null]) (.array []) = .eq ∧
    (∀ cell, compareCells false (.array [.null]) cell = compareCells false (.array []) cell) ∧
    compareCells false .null (.array []) = .gt ∧
    compareCells false (.object []) (.array []) = (compareCells true (.object []) (.array [])).swap := by
  obtain ⟨preorder, missing, reversed⟩ := compareCells_isTotalPreorder
  have same : compareCells false (.array [.null]) (.array []) = .eq := rfl
  exact ⟨same, fun cell => ((preorder false).level _ _ same cell).1,
    (missing false _ (by simp)).1, reversed _ _ (by simp) (by simp)⟩

/-! ### Rows -/

/-- The order of rows by one of their cells. -/
def compareRows (column : Nat) (ascending : Bool) (left right : List Json) : Ordering :=
  compareCells ascending (left.getD column .null) (right.getD column .null)

instance (column : Nat) (ascending : Bool) : TransCmp (compareRows column ascending) :=
  transCmp_comap (fun row : List Json => row.getD column .null) (compareCells ascending)

end Table

/-- `sorted` holds the rows in an order, and rows that are equal in it stand as they stood before. -/
structure IsStableSort {α : Type} (cmp : α → α → Ordering) (rows sorted : List α) : Prop where
  perm : sorted.Perm rows
  ordered : sorted.Pairwise fun left right => (cmp left right).isLE
  stable : ∀ row, sorted.filter (fun other => cmp row other == .eq) =
    rows.filter fun other => cmp row other == .eq

theorem isStableSort_mergeSort {α : Type} (cmp : α → α → Ordering) [TransCmp cmp] (rows : List α) :
    IsStableSort cmp rows (rows.mergeSort fun left right => (cmp left right).isLE) := by
  have trans : ∀ a b c, (cmp a b).isLE → (cmp b c).isLE → (cmp a c).isLE :=
    fun _ _ _ => TransCmp.isLE_trans
  have total : ∀ a b, (cmp a b).isLE || (cmp b a).isLE := by
    intro a b
    have swapped : cmp b a = (cmp a b).swap := OrientedCmp.eq_swap
    rw [swapped]
    cases cmp a b <;> rfl
  have perm := List.mergeSort_perm rows fun left right => (cmp left right).isLE
  refine ⟨perm, List.pairwise_mergeSort trans total rows, fun row => ?_⟩
  -- equal rows are ordered as they stand, so sorting keeps them as a sublist
  have level : (rows.filter fun other => cmp row other == .eq).Pairwise fun left right =>
      (cmp left right).isLE := by
    rw [List.pairwise_filter]
    refine List.pairwise_of_forall fun left right first second => ?_
    rw [beq_iff_eq] at first second
    exact Ordering.isLE_of_eq_eq (TransCmp.eq_trans (OrientedCmp.eq_symm first) second)
  have kept := List.sublist_mergeSort trans total level List.filter_sublist
  have filtered := kept.filter fun other => cmp row other == .eq
  rw [List.filter_filter] at filtered
  simp only [Bool.and_self] at filtered
  exact (filtered.eq_of_length ((perm.filter _).length_eq.symm)).symm

/-- Sorting the rows by a column is a stable sort. -/
theorem Table.isStableSort_sortRows (column : Nat) (ascending : Bool) (rows : List (List Json)) :
    IsStableSort (compareRows column ascending) rows (sortRows column ascending rows) :=
  isStableSort_mergeSort (compareRows column ascending) rows

end FleetQuery
