import FleetQuery.Json.Basic
import FleetQuery.Text.Blank
import FleetQuery.Text.LowerCase

/-!
# Tables

A table has headers and rows of cells. It is sorted by one column: missing cells come last in both
directions, and cells of different kinds stand in the order booleans, numbers, texts, arrays,
objects. Arrays are equal among themselves, and so are objects.
-/
namespace FleetQuery

structure Table where
  headers : List String
  rows : List (List Json)

namespace Table

/-! ### Order of cells -/

/-- The place of a kind of cell among the kinds. -/
def kindRank : Json → Nat
  | .null => 0
  | .bool _ => 1
  | .number _ => 2
  | .string _ => 3
  | .array _ => 4
  | .object _ => 5

/-- The ascending order of cells that are not missing. -/
def comparePresent : Json → Json → Ordering
  | .number left, .number right => left.toBinary64.compareTotal right.toBinary64
  | .string left, .string right => Text.compareText left right
  | .bool left, .bool right => compare left.toNat right.toNat
  | left, right => compare (kindRank left) (kindRank right)

/-- The order of cells in one direction. -/
def compareCells (ascending : Bool) : Json → Json → Ordering
  | .null, .null => .eq
  | .null, _ => .gt
  | _, .null => .lt
  | left, right =>
    if ascending then comparePresent left right else (comparePresent left right).swap

/-! ### Columns -/

/-- The form in which headers are compared: one blank between words, and lower case. -/
def normalizeHeader (header : String) : String := Text.lower (Text.squeeze header)

/-- The first column with this header. -/
def columnIndex? (headers : List String) (key : String) : Option Nat :=
  headers.findIdx? fun header => normalizeHeader header == normalizeHeader key

/-- The rows in the order of one column. Rows that compare equal keep their order. -/
def sortRows (column : Nat) (ascending : Bool) (rows : List (List Json)) : List (List Json) :=
  rows.mergeSort fun left right =>
    (compareCells ascending (left.getD column .null) (right.getD column .null)).isLE

/-- Sorts by the column headed `key`; without such a column nothing changes. -/
def sortBy (table : Table) (key : String) (ascending : Bool) : Table :=
  match columnIndex? table.headers key with
  | some column => { table with rows := sortRows column ascending table.rows }
  | none => table

def take (table : Table) (rows : Nat) : Table := { table with rows := table.rows.take rows }

end Table
end FleetQuery
