import FleetQuery.Inventory
import FleetQuery.Proofs.Outcome

/-!
# Machine records

A field of a record is read into its cell and leaves the others as they are. So a record is read just
if each of its fields has a value of its kind, and a machine is read again from any object that has
its twelve fields as members. Main statements: `exists_ofJson_iff` and `ofJson_of_members`.
-/
namespace FleetQuery.Machine

/-! ### Cells -/

/-- A machine is what its cells are. -/
theorem eq_of_cells {first second : Machine}
    (same : ∀ field, first.cell field = second.cell field) : first = second := by
  have text : ∀ {left right : Option String}, textCell left = textCell right → left = right := by
    intro left right cells
    cases left <;> cases right <;> cases cells <;> rfl
  have number : ∀ {left right : Option Binary64}, numberCell left = numberCell right →
      left = right := by
    intro left right cells
    cases left <;> cases right <;> cases cells <;> rfl
  cases first
  cases second
  rw [Machine.mk.injEq]
  exact ⟨text (same .computerName), text (same .role), text (same .osPlatform),
    text (same .osVersion), text (same .groupName), text (same .location),
    number (same .diskFreeGb), number (same .memoryGb), number (same .cpuPercent),
    number (same .complianceScore), text (same .lastReboot), text (same .lastSeen)⟩

/-- The cell that a field takes from a value. -/
def readCell (field : Field) (value : Json) : Except ShapeError Cell :=
  if field.isNumeric then (readNumber value).map numberCell else (readText value).map textCell

/-- Reading a field changes its cell alone. -/
theorem withField_of_readCell (machine : Machine) {field : Field} {value : Json} {cell : Cell}
    (read : readCell field value = .ok cell) :
    ∃ after, machine.withField field value = .ok after ∧ after.cell field = cell ∧
      ∀ other, other ≠ field → after.cell other = machine.cell other := by
  -- a field is updated in place, so the other cells are the same by computation
  cases field <;> obtain ⟨content, found, rfl⟩ := (map_eq_ok_iff _ _ _).mp read <;>
    refine ⟨_, (map_eq_ok_iff _ _ _).mpr ⟨content, found, rfl⟩, rfl, fun other different => ?_⟩ <;>
    cases other <;> first | rfl | exact absurd rfl different

theorem withField_of_error (machine : Machine) {field : Field} {value : Json} {error : ShapeError}
    (failed : readCell field value = .error error) :
    machine.withField field value = .error error := by
  cases field <;> exact (map_eq_error_iff _ _ _).mpr ((map_eq_error_iff _ _ _).mp failed)

/-! ### Well-shaped records -/

/-- Whether a value is one that a field may have. -/
def Fits (field : Field) (value : Json) : Prop :=
  value = .null ∨
    if field.isNumeric then ∃ number, value = .number number else ∃ text, value = .string text

/-- Whether a value is a record: an object whose known members have values that they may have, or an
array of such values for all the fields. -/
inductive IsRecord : Json → Prop where
  | object {members : List (String × Json)}
    (fits : ∀ member ∈ members, ∀ field, Field.ofName? member.1 = some field →
      Fits field member.2) : IsRecord (.object members)
  | array {items : List Json} (fits : List.Forall₂ Fits Field.all items) : IsRecord (.array items)

theorem exists_readCell_iff {field : Field} {value : Json} :
    (∃ cell, readCell field value = .ok cell) ↔ Fits field value := by
  rw [readCell, Fits]
  cases field.isNumeric <;> cases value <;> simp [readNumber, readText, Except.map]

theorem exists_withFields_iff (machine : Machine) (fields : List (Field × Json)) :
    (∃ after, machine.withFields fields = .ok after) ↔ ∀ pair ∈ fields, Fits pair.1 pair.2 := by
  induction fields generalizing machine with
  | nil => simp [withFields, pure, Except.pure]
  | cons pair rest ih =>
    rw [withFields, List.foldlM_cons, List.forall_mem_cons, ← exists_readCell_iff]
    cases read : readCell pair.1 pair.2 with
    | error error =>
      rw [machine.withField_of_error read]
      simp [bind, Except.bind]
    | ok cell =>
      obtain ⟨next, built, _⟩ := machine.withField_of_readCell read
      have later := ih next
      rw [withFields] at later
      rw [built]
      simpa [bind, Except.bind] using later

theorem mem_knownFields_iff {members : List (String × Json)} {pair : Field × Json} :
    pair ∈ knownFields members ↔
      ∃ member ∈ members, Field.ofName? member.1 = some pair.1 ∧ member.2 = pair.2 := by
  rw [knownFields, List.mem_filterMap]
  simp only [Option.map_eq_some_iff, Prod.ext_iff]
  constructor
  · rintro ⟨member, listed, field, named, rfl, value⟩
    exact ⟨member, listed, named, value⟩
  · rintro ⟨member, listed, named, value⟩
    exact ⟨member, listed, pair.1, named, rfl, value⟩

/-- A value is read as a machine if and only if it is a record. -/
theorem exists_ofJson_iff {value : Json} :
    (∃ machine, ofJson value = .ok machine) ↔ IsRecord value := by
  cases value with
  | object members =>
    rw [ofJson, exists_withFields_iff]
    constructor
    · intro fits
      refine .object fun member listed field named => ?_
      exact fits (field, member.2) (mem_knownFields_iff.mpr ⟨member, listed, named, rfl⟩)
    · rintro ⟨fits⟩ pair known
      obtain ⟨member, listed, named, same⟩ := mem_knownFields_iff.mp known
      exact same ▸ fits member listed pair.1 named
  | array items =>
    have shape : IsRecord (.array items) ↔ Field.all.length = items.length ∧
        ∀ pair ∈ Field.all.zip items, Fits pair.1 pair.2 := by
      constructor
      · intro record
        cases record with
        | array fits =>
          exact ⟨fits.length_eq, fun pair member => (List.forall₂_iff_zip.mp fits).2 member⟩
      · rintro ⟨length, fits⟩
        exact .array (List.forall₂_iff_zip.mpr ⟨length, fun member => fits _ member⟩)
    -- the fields are read before the items are counted, as far as there are both
    rw [shape, ← exists_withFields_iff blank, ofJson]
    cases built : blank.withFields (Field.all.zip items) with
    | error error => simp [bind, Except.bind]
    | ok machine =>
      simp only [bind, Except.bind, Except.ok.injEq, exists_eq', and_true]
      rcases Nat.lt_trichotomy items.length Field.all.length with short | whole | long
      · have other := Nat.ne_of_gt short
        simp [short, other, throw, throwThe, MonadExceptOf.throw]
      · simp [whole, pure, Except.pure]
      · have other := Nat.ne_of_lt long
        have notShort := Nat.not_lt_of_gt long
        simp [long, notShort, other, throw, throwThe, MonadExceptOf.throw]
  | null | bool _ | number _ | string _ =>
    simp only [ofJson, reduceCtorEq, exists_false, false_iff]
    rintro ⟨⟩

/-! ### Records of machines -/

/-- A cell in full, as a record has it. -/
def fullJson : Cell → Json
  | .null => .null
  | .text value => .string value
  | .number value => .ofBinary64 value

/-- The twelve members of the record of a machine. -/
def members (machine : Machine) : List (String × Json) :=
  Field.all.map fun field => (field.name, fullJson (machine.cell field))

theorem toJson_eq_object_members (machine : Machine) : machine.toJson = .object machine.members :=
  rfl

def HasFiniteNumbers (machine : Machine) : Prop :=
  ∀ field number, machine.cell field = .number number → number.isFinite = true

theorem readCell_fullJson {machine : Machine} (finite : machine.HasFiniteNumbers) (field : Field) :
    readCell field (fullJson (machine.cell field)) = .ok (machine.cell field) := by
  have text : ∀ content : Option String,
      (readText (fullJson (textCell content))).map textCell = .ok (textCell content) := by
    intro content
    cases content <;> rfl
  have number : ∀ content : Option Binary64,
      (∀ number, numberCell content = .number number → number.isFinite = true) →
        (readNumber (fullJson (numberCell content))).map numberCell = .ok (numberCell content) := by
    intro content finite
    cases content with
    | none => rfl
    | some value =>
      have full : fullJson (numberCell (some value)) = .number (.float value) :=
        if_pos (finite value rfl)
      rw [full]
      rfl
  have here := finite field
  cases field <;> first | exact text _ | exact number _ here

/-- Fields that bring the cells of a machine make it, if those that are not among them have the cells
already. -/
theorem withFields_eq_ok {machine target : Machine} {fields : List (Field × Json)}
    (reads : ∀ pair ∈ fields, readCell pair.1 pair.2 = .ok (target.cell pair.1))
    (others : ∀ field, field ∉ fields.map Prod.fst → machine.cell field = target.cell field) :
    machine.withFields fields = .ok target := by
  -- a cell that was read leaves the others to the fields that follow
  induction fields generalizing machine with
  | nil =>
    have same : machine = target := eq_of_cells fun field => others field List.not_mem_nil
    rw [same]
    rfl
  | cons pair rest ih =>
    obtain ⟨first, later⟩ := List.forall_mem_cons.mp reads
    obtain ⟨next, built, here, kept⟩ := machine.withField_of_readCell first
    have remaining : next.withFields rest = .ok target := by
      refine ih later fun field absent => ?_
      by_cases same : field = pair.1
      · rw [same, here]
      · rw [kept field same]
        exact others field (by simp [same, absent])
    rw [withFields, List.foldlM_cons, built]
    exact remaining

/-- A machine is read from any object that has its members. -/
theorem ofJson_of_members {machine : Machine} (finite : machine.HasFiniteNumbers)
    {members : List (String × Json)} (all : members.Perm machine.members) :
    ofJson (.object members) = .ok machine := by
  have named : ∀ field, Field.ofName? field.name = some field := by
    intro field
    cases field <;> decide
  rw [ofJson]
  apply withFields_eq_ok
  · intro pair known
    obtain ⟨member, listed, name, value⟩ := mem_knownFields_iff.mp known
    obtain ⟨field, _, rfl⟩ := List.mem_map.mp (all.mem_iff.mp listed)
    rw [named, Option.some.injEq] at name
    rw [← name, ← value]
    exact readCell_fullJson finite field
  · -- every field has a member, so none keeps the cell of the blank machine
    intro field absent
    have listed : (field.name, fullJson (machine.cell field)) ∈ members :=
      all.mem_iff.mpr (List.mem_map.mpr ⟨field, field.mem_all, rfl⟩)
    have known : (field, fullJson (machine.cell field)) ∈ knownFields members :=
      mem_knownFields_iff.mpr ⟨_, listed, named field, rfl⟩
    exact absurd (List.mem_map_of_mem known) absent

end FleetQuery.Machine
