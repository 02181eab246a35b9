import FleetQuery.Aggregation
import FleetQuery.Proofs.Table.Order
import Mathlib.Data.List.Induction

/-!
# Least and greatest numbers

The least or greatest number of some cells is the same in whatever order the cells come, and a cell
without a number changes nothing. There is one exception: nothing is strictly beyond what is not a
number, so if that comes first it stays, and hides the numbers after it. Main statement:
`ofCells_regardless_of_order`.
-/
namespace FleetQuery

namespace Binary64

theorem place_eq_none_iff (number : Binary64) : number.place = none ↔ number = nan := by
  cases number <;> simp [place]

/-- Numbers at one place are the same but for the sign of a zero. -/
theorem eq_or_zeros_of_place_eq {left right : Binary64} (same : left.place = right.place) :
    left = right ∨ ∃ first second, left = zero first ∧ right = zero second := by
  cases left with
  | nan => exact .inl ((place_eq_none_iff right).mp same.symm).symm
  | infinite first =>
    cases right with
    | nan => cases same
    | infinite second =>
      have large : (0 : Int) < magnitudes := by decide
      cases first <;> cases second <;> simp [place] at same ⊢ <;> omega
    | finite second rank =>
      have inside := rank.isLt
      cases first <;> cases second <;> simp [place] at same <;> omega
  | finite first rank =>
    cases right with
    | nan => cases same
    | infinite second =>
      have inside := rank.isLt
      cases first <;> cases second <;> simp [place] at same <;> omega
    | finite second other =>
      by_cases signs : first = second
      · subst signs
        have ranks : rank = other := by
          apply Fin.ext
          cases first <;> simp [place] at same <;> omega
        exact .inl (ranks ▸ rfl)
      · -- with different signs only the two zeros share a place
        have ranks : rank.val = 0 ∧ other.val = 0 := by
          cases first <;> cases second <;> simp [place] at same signs ⊢ <;> omega
        have here : rank = ⟨0, by decide⟩ := Fin.ext ranks.1
        have there : other = ⟨0, by decide⟩ := Fin.ext ranks.2
        exact .inr ⟨first, second, by rw [zero, here], by rw [zero, there]⟩

end Binary64

/-- Numbers at one place are level where tables compare them. -/
theorem Cell.level_of_place_eq {left right : Binary64} (same : left.place = right.place) :
    Table.compareCells true (roundedJson left) (roundedJson right) = .eq := by
  rcases Binary64.eq_or_zeros_of_place_eq same with rfl | ⟨first, second, rfl, rfl⟩
  · exact Std.ReflCmp.compare_self
  · cases first <;> cases second <;> decide +kernel

/-- The numbers of some cells. -/
def Cell.numbers (cells : List Cell) : List Binary64 := cells.filterMap toNumber?

inductive Extreme where
  | least
  | greatest

namespace Extreme

def aggregate : Extreme → Aggregate
  | least => .min
  | greatest => .max

/-- The accumulator in which a number stands. -/
def accumulator : Extreme → Option Binary64 → Accumulator
  | least => .min
  | greatest => .max

/-- Whether a number is strictly beyond another one. -/
def beats : Extreme → Binary64 → Binary64 → Bool
  | least, value, other => value.lt other
  | greatest, value, other => other.lt value

/-- The place on the number line, turned so that the extreme number comes first. -/
def rank : Extreme → Binary64 → Option Int
  | least, value => value.place
  | greatest, value => value.place.map (- ·)

variable {extreme : Extreme} {value other : Binary64} {numbers : List Binary64}

theorem rank_eq_none_iff : extreme.rank value = none ↔ value = .nan := by
  cases extreme <;> simp [rank, Binary64.place_eq_none_iff]

theorem place_eq_of_rank_eq (same : extreme.rank value = extreme.rank other) :
    value.place = other.place := by
  cases extreme with
  | least => exact same
  | greatest => exact Option.map_injective (fun _ _ => Int.neg_inj.mp) same

theorem beats_iff : extreme.beats value other = true ↔
    ∃ first second, extreme.rank value = some first ∧ extreme.rank other = some second ∧
      first < second := by
  cases extreme <;> cases here : value.place <;> cases there : other.place <;>
    simp [beats, rank, Binary64.lt, here, there]

theorem not_beats_self (value : Binary64) : extreme.beats value value = false := by
  rw [← Bool.not_eq_true, beats_iff]
  rintro ⟨first, second, here, there, less⟩
  rw [here, Option.some.injEq] at there
  omega

theorem beats_trans {third : Binary64} (first : extreme.beats value other = true)
    (second : extreme.beats other third = true) : extreme.beats value third = true := by
  rw [beats_iff] at first second ⊢
  obtain ⟨one, two, here, there, less⟩ := first
  obtain ⟨two', three, there', beyond, below⟩ := second
  rw [there, Option.some.injEq] at there'
  exact ⟨one, three, here, beyond, by omega⟩

/-- What is not a number neither beats another one nor is beaten. -/
theorem not_beats_nan (value : Binary64) : extreme.beats value .nan = false := by
  rw [← Bool.not_eq_true, beats_iff]
  rintro ⟨_, _, _, there, _⟩
  rw [rank_eq_none_iff.mpr rfl] at there
  cases there

theorem ne_nan_of_beats (beaten : extreme.beats value other = true) : value ≠ .nan := by
  rintro rfl
  obtain ⟨_, _, here, _⟩ := beats_iff.mp beaten
  rw [rank_eq_none_iff.mpr rfl] at here
  cases here

/-! ### The extreme one of some numbers -/

/-- Whether a value is the least or greatest of some numbers. Numbers that cannot be ordered do not
count. -/
structure IsOf (extreme : Extreme) (value : Binary64) (numbers : List Binary64) : Prop where
  member : value ∈ numbers
  ordered : value ≠ .nan
  unbeaten : ∀ other ∈ numbers, extreme.beats other value = false

/-- Of the same numbers in another order the extreme one is at the same place. -/
theorem IsOf.place_eq {others : List Binary64} (perm : numbers.Perm others)
    (first : extreme.IsOf value numbers) (second : extreme.IsOf other others) :
    value.place = other.place := by
  have below := second.unbeaten value (perm.mem_iff.mp first.member)
  have above := first.unbeaten other (perm.mem_iff.mpr second.member)
  rw [← Bool.not_eq_true, beats_iff] at below above
  obtain ⟨here, shown⟩ := Option.ne_none_iff_exists'.mp (mt rank_eq_none_iff.mp first.ordered)
  obtain ⟨there, known⟩ := Option.ne_none_iff_exists'.mp (mt rank_eq_none_iff.mp second.ordered)
  have level : extreme.rank value = extreme.rank other := by
    rw [shown, known]
    congr 1
    by_contra apart
    rcases Int.lt_or_gt_of_ne apart with less | more
    · exact below ⟨here, there, shown, known, less⟩
    · exact above ⟨there, here, known, shown, more⟩
  exact place_eq_of_rank_eq level

/-- The number that stands after one more. -/
def next (extreme : Extreme) (standing : Option Binary64) (value : Binary64) : Binary64 :=
  match standing with
  | none => value
  | some current => if extreme.beats value current then value else current

theorem IsOf.next (stands : extreme.IsOf value numbers) (other : Binary64) :
    extreme.IsOf (extreme.next (some value) other) (numbers ++ [other]) := by
  rw [Extreme.next]
  split
  next beaten =>
    refine ⟨by simp, ne_nan_of_beats beaten, fun third listed => ?_⟩
    rcases List.mem_append.mp listed with earlier | last
    · -- what beats the new number would beat the old one too
      rw [← Bool.not_eq_true]
      intro beyond
      have kept := stands.unbeaten third earlier
      rw [beats_trans beyond beaten] at kept
      cases kept
    · rw [List.mem_singleton.mp last]
      exact not_beats_self other
  next kept =>
    refine ⟨List.mem_append_left _ stands.member, stands.ordered, fun third listed => ?_⟩
    rcases List.mem_append.mp listed with earlier | last
    · exact stands.unbeaten third earlier
    · rw [List.mem_singleton.mp last]
      exact (Bool.not_eq_true _).mp kept

/-! ### What stands after some numbers -/

/-- What stands after some numbers: the extreme one, unless the first is not a number. -/
inductive Stands (extreme : Extreme) : List Binary64 → Option Binary64 → Prop
  | nothing : Stands extreme [] none
  | blocked (rest : List Binary64) : Stands extreme (.nan :: rest) (some .nan)
  | extreme {first value : Binary64} {rest : List Binary64} (counts : first ≠ .nan)
      (found : extreme.IsOf value (first :: rest)) : Stands extreme (first :: rest) (some value)

theorem Stands.next {standing : Option Binary64} (stands : extreme.Stands numbers standing)
    (value : Binary64) :
    extreme.Stands (numbers ++ [value]) (some (extreme.next standing value)) := by
  cases stands with
  | nothing =>
    by_cases counts : value = .nan
    · rw [counts]
      exact .blocked []
    · refine .extreme counts ⟨List.mem_singleton_self value, counts, ?_⟩
      rintro other listed
      rw [List.mem_singleton.mp listed]
      exact not_beats_self value
  | blocked rest =>
    rw [Extreme.next, not_beats_nan]
    exact .blocked (rest ++ [value])
  | extreme counts found => exact .extreme counts (found.next value)

/-- What stands after one more cell: its number competes, if it has one. -/
def feed (extreme : Extreme) (standing : Option Binary64) (cell : Cell) : Option Binary64 :=
  (cell.toNumber?.map (extreme.next standing)).or standing

theorem update_accumulator (extreme : Extreme) (standing : Option Binary64) (cell : Cell) :
    (extreme.accumulator standing).update [cell] =
      .ok (extreme.accumulator (extreme.feed standing cell)) := by
  cases read : cell.toNumber? <;> cases extreme <;> cases standing <;>
    simp only [Accumulator.update, Accumulator.addCell, Accumulator.addNumber, accumulator, feed,
      next, beats, read, Option.map_none, Option.map_some, Option.none_or, Option.some_or] <;> rfl

theorem Stands.feed {cells : List Cell} {standing : Option Binary64}
    (stands : extreme.Stands (Cell.numbers cells) standing) (cell : Cell) :
    extreme.Stands (Cell.numbers (cells ++ [cell])) (extreme.feed standing cell) := by
  cases read : cell.toNumber? with
  | none => simpa [Cell.numbers, Extreme.feed, read] using stands
  | some value => simpa [Cell.numbers, Extreme.feed, read] using stands.next value

/-! ### A run over cells -/

/-- The result over some cells, one in each row. -/
def ofCells (extreme : Extreme) (cells : List Cell) : Except TooManyCells Json :=
  (cells.foldlM (fun state cell => Accumulator.update state [cell])
    (Accumulator.start extreme.aggregate)).map Accumulator.result

theorem exists_ofCells (extreme : Extreme) (cells : List Cell) :
    ∃ standing, extreme.ofCells cells = .ok (Accumulator.optionalJson standing) ∧
      extreme.Stands (Cell.numbers cells) standing := by
  have run : ∃ standing, cells.foldlM (fun state cell => Accumulator.update state [cell])
      (Accumulator.start extreme.aggregate) = .ok (extreme.accumulator standing) ∧
        extreme.Stands (Cell.numbers cells) standing := by
    -- the run takes the cells from the front, so the last one is the step of the induction
    induction cells using List.reverseRecOn with
    | nil => exact ⟨none, by cases extreme <;> rfl, .nothing⟩
    | append_singleton cells cell ih =>
      obtain ⟨standing, ran, stands⟩ := ih
      refine ⟨extreme.feed standing cell, ?_, stands.feed cell⟩
      rw [List.foldlM_append, ran]
      simp only [bind, Except.bind, List.foldlM_cons, List.foldlM_nil, update_accumulator]
      rfl
  obtain ⟨standing, ran, stands⟩ := run
  refine ⟨standing, ?_, stands⟩
  rw [ofCells, ran]
  cases extreme <;> rfl

/-- Whether the first number is not a number and hides others that are. -/
def Blocks (numbers : List Binary64) : Prop :=
  numbers.head? = some .nan ∧ ∃ number ∈ numbers, number ≠ .nan

instance (numbers : List Binary64) : Decidable (Blocks numbers) :=
  inferInstanceAs (Decidable (_ ∧ ∃ number ∈ numbers, number ≠ .nan))

/-- Where neither order of some numbers blocks, those that stand in the end are level. -/
theorem Stands.level {others : List Binary64} {standing reordered : Option Binary64}
    (first : extreme.Stands numbers standing) (free : ¬ Blocks numbers)
    (second : extreme.Stands others reordered) (clear : ¬ Blocks others)
    (perm : numbers.Perm others) :
    Table.compareCells true (Accumulator.optionalJson standing)
      (Accumulator.optionalJson reordered) = .eq := by
  cases first with
  | nothing =>
    obtain rfl := perm.nil_eq
    cases second
    rfl
  | blocked rest =>
    cases second with
    | nothing => cases perm.eq_nil
    | blocked others => exact Std.ReflCmp.compare_self
    | extreme counts found =>
      exact absurd ⟨rfl, _, perm.mem_iff.mpr found.member, found.ordered⟩ free
  | extreme counts found =>
    cases second with
    | nothing => cases perm.eq_nil
    | blocked others =>
      exact absurd ⟨rfl, _, perm.mem_iff.mp found.member, found.ordered⟩ clear
    | extreme _ again => exact Cell.level_of_place_eq (found.place_eq perm again)

/-- The result over some cells is the least or greatest of their numbers, to thousandths, and the
same cells in another order give a result level with it. Without a number it is null. It is null too
if the first number is not a number though others are, for it hides them. -/
theorem ofCells_regardless_of_order (extreme : Extreme) (cells : List Cell) :
    ∃ result, extreme.ofCells cells = .ok result ∧
      (Cell.numbers cells = [] → result = .null) ∧
      (Blocks (Cell.numbers cells) → result = .null) ∧
      (¬ Blocks (Cell.numbers cells) →
        ((∃ number ∈ Cell.numbers cells, number ≠ .nan) →
          ∃ value, extreme.IsOf value (Cell.numbers cells) ∧ result = Cell.roundedJson value) ∧
        ∀ others, cells.Perm others → ¬ Blocks (Cell.numbers others) →
          ∃ reordered, extreme.ofCells others = .ok reordered ∧
            Table.compareCells true result reordered = .eq) := by
  obtain ⟨standing, ran, stands⟩ := extreme.exists_ofCells cells
  refine ⟨_, ran, ?_, ?_, fun free => ⟨?_, ?_⟩⟩
  · intro none
    rw [none] at stands
    cases stands
    rfl
  · rintro ⟨led, _⟩
    generalize Cell.numbers cells = numbers at *
    cases stands with
    | nothing => cases led
    | blocked rest => rfl
    | extreme counts found => exact absurd (Option.some.inj led) counts
  · rintro counted
    generalize Cell.numbers cells = numbers at *
    cases stands with
    | nothing => simp at counted
    | blocked rest => exact absurd ⟨rfl, counted⟩ free
    | extreme counts found => exact ⟨_, found, rfl⟩
  · intro others perm clear
    obtain ⟨reordered, again, stays⟩ := extreme.exists_ofCells others
    exact ⟨_, again, stands.level free stays clear (perm.filterMap _)⟩

/-- What is not a number is passed over if another number comes before it. -/
theorem ofCells_sample_regardless_of_order :
    ∃ value, least.IsOf value
        (Cell.numbers [.null, .text " 20 ", .text "NaN", .text "22H2", .number (.ofNat 3)]) ∧
      least.ofCells [.null, .text " 20 ", .text "NaN", .text "22H2", .number (.ofNat 3)] =
        .ok (Cell.roundedJson value) := by
  have free : ¬ Blocks
      (Cell.numbers [.null, .text " 20 ", .text "NaN", .text "22H2", .number (.ofNat 3)]) := by
    decide +kernel
  have counted : ∃ number ∈
      Cell.numbers [.null, .text " 20 ", .text "NaN", .text "22H2", .number (.ofNat 3)],
      number ≠ .nan := by decide +kernel
  obtain ⟨_, found, _, _, orders⟩ := ofCells_regardless_of_order least
    [.null, .text " 20 ", .text "NaN", .text "22H2", .number (.ofNat 3)]
  obtain ⟨value, extreme, rfl⟩ := (orders free).1 counted
  exact ⟨value, extreme, found⟩

/-- It is not so that the order never matters: what is not a number hides a number behind it, but
not one before it. -/
theorem not_ofCells_regardless_of_order : ¬ ∀ (extreme : Extreme) (cells : List Cell),
    ∃ result, extreme.ofCells cells = .ok result ∧
      (Cell.numbers cells = [] → result = .null) ∧
      ((∃ number ∈ Cell.numbers cells, number ≠ .nan) →
        ∃ value, extreme.IsOf value (Cell.numbers cells) ∧ result = Cell.roundedJson value) ∧
      ∀ others, cells.Perm others → ∃ reordered, extreme.ofCells others = .ok reordered ∧
        Table.compareCells true result reordered = .eq := by
  intro keeps
  have hidden : (least.ofCells [.text "nan", .text "2019"]).map (Table.compareCells true .null) =
      .ok .eq := by decide +kernel
  have shown : (least.ofCells [.text "2019", .text "nan"]).map (Table.compareCells true .null) =
      .ok .gt := by decide +kernel
  obtain ⟨result, first, _, _, orders⟩ := keeps least [.text "nan", .text "2019"]
  obtain ⟨reordered, second, level⟩ := orders [.text "2019", .text "nan"] (.swap ..)
  rw [first] at hidden
  rw [second] at shown
  have missing := Except.ok.inj hidden
  have above := Except.ok.inj shown
  rw [Std.TransCmp.congr_left missing, level] at above
  cases above

end Extreme
end FleetQuery
