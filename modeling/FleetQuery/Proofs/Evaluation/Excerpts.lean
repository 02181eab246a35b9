import FleetQuery.Execution
import Mathlib.Data.List.Infix

/-!
# Parts of a text in filters

A filter compares lower forms, and the lower form of a character is its own wherever it stands, but
for a capital sigma, which ends a word in another form. A value that is part of a text is therefore
found in it if each of its sigmas ends a word in the text just where it ends one in the value. Main
statement: `matches_excerpt`.
-/
namespace FleetQuery

namespace Text

/-! ### The lower form of a part -/

/-- The lower form of a part of a text, between `before`, held in reverse, and `after`. -/
def lowerWithin (before after : List Char) : List Char → List Char
  | [] => []
  | c :: rest =>
    (if c = 'Σ' then [lowerSigma before (rest ++ after)] else lowerChar c) ++
      lowerWithin (c :: before) after rest

/-- The lower form of a text is that of its parts where they stand. -/
theorem lowerFrom_append (before part after : List Char) :
    lowerFrom before (part ++ after) =
      lowerWithin before after part ++ lowerFrom (part.reverse ++ before) after := by
  induction part generalizing before with
  | nil => rfl
  | cons c rest ih =>
    rw [List.cons_append, lowerFrom, lowerWithin, ih, List.append_assoc, List.reverse_cons,
      List.append_assoc, List.singleton_append]

theorem lowerChars_eq_lowerWithin (part : List Char) :
    lowerChars part = lowerWithin [] [] part := by
  have alone := lowerFrom_append [] part []
  rwa [List.append_nil, lowerFrom, List.append_nil] at alone

section

variable (before after before' after' : List Char)

/-- A part takes as many characters in one place as in another. -/
theorem length_lowerWithin (part : List Char) :
    (lowerWithin before after part).length = (lowerWithin before' after' part).length := by
  induction part generalizing before before' with
  | nil => rfl
  | cons c rest ih =>
    rw [lowerWithin, lowerWithin, List.length_append, List.length_append, ih _ (c :: before')]
    split <;> rfl

/-- The lower forms of a part in two places agree just if those of its sigmas do. -/
theorem lowerWithin_eq_iff (part : List Char) :
    lowerWithin before after part = lowerWithin before' after' part ↔
      ∀ front rest, part = front ++ 'Σ' :: rest →
        lowerSigma (front.reverse ++ before) (rest ++ after) =
          lowerSigma (front.reverse ++ before') (rest ++ after') := by
  induction part generalizing before before' with
  | nil => simp [lowerWithin]
  | cons c part ih =>
    have aligned : (if c = 'Σ' then [lowerSigma before (part ++ after)] else lowerChar c).length =
        (if c = 'Σ' then [lowerSigma before' (part ++ after')] else lowerChar c).length := by
      split <;> rfl
    have first : (if c = 'Σ' then [lowerSigma before (part ++ after)] else lowerChar c) =
        (if c = 'Σ' then [lowerSigma before' (part ++ after')] else lowerChar c) ↔
          (c = 'Σ' → lowerSigma before (part ++ after) = lowerSigma before' (part ++ after')) := by
      split <;> simp_all
    rw [lowerWithin, lowerWithin]
    constructor
    · intro same front rest split
      obtain ⟨here, later⟩ := List.append_inj same aligned
      rw [first] at here
      rw [ih] at later
      cases front with
      | nil =>
        rw [List.nil_append, List.cons.injEq] at split
        rw [← split.2]
        exact here split.1
      | cons d front =>
        rw [List.cons_append, List.cons.injEq] at split
        simpa [split.1] using later front rest split.2
    · intro all
      rw [first.mpr fun here => all [] part (by rw [here]; rfl), (ih _ _).mpr]
      intro front rest split
      simpa using all (c :: front) rest (by rw [split]; rfl)

end

/-- Whether each capital sigma of a part has the form in the text that it has in the part alone. -/
def KeepsSigmas (before part after : List Char) : Prop :=
  ∀ front rest, part = front ++ 'Σ' :: rest →
    lowerSigma (front.reverse ++ before.reverse) (rest ++ after) = lowerSigma front.reverse rest

theorem keepsSigmas_iff (before part after : List Char) :
    KeepsSigmas before part after ↔
      lowerWithin before.reverse after part = lowerChars part := by
  rw [lowerChars_eq_lowerWithin, lowerWithin_eq_iff, KeepsSigmas]
  simp only [List.append_nil]

instance (before part after : List Char) : Decidable (KeepsSigmas before part after) :=
  decidable_of_iff _ (keepsSigmas_iff before part after).symm

theorem keepsSigmas_of_notMem {part : List Char} (plain : 'Σ' ∉ part) (before after : List Char) :
    KeepsSigmas before part after := by
  rintro front rest rfl
  exact absurd (by simp) plain

/-- A part that keeps its sigmas stands in lower case where it stood. -/
theorem KeepsSigmas.infix_lowerChars {before part after : List Char}
    (kept : KeepsSigmas before part after) :
    lowerChars part <:+: lowerChars (before ++ (part ++ after)) := by
  refine ⟨lowerWithin [] (part ++ after) before,
    lowerFrom (part.reverse ++ before.reverse) after, ?_⟩
  rw [lowerChars, lowerChars, lowerFrom_append, List.append_nil, lowerFrom_append,
    (keepsSigmas_iff before part after).mp kept, lowerChars, List.append_assoc]

/-- The front of a text is its front in lower case only if it keeps its sigmas. -/
theorem prefix_lowerChars_iff (part after : List Char) :
    lowerChars part <+: lowerChars (part ++ after) ↔ KeepsSigmas [] part after := by
  have whole : lowerChars (part ++ after) =
      lowerWithin [] after part ++ lowerFrom part.reverse after := by
    rw [lowerChars, lowerFrom_append, List.append_nil]
  have length : (lowerChars part).length = (lowerWithin [] after part).length := by
    rw [lowerChars_eq_lowerWithin, length_lowerWithin]
  rw [keepsSigmas_iff, whole, List.reverse_nil]
  constructor
  · intro found
    have both := List.prefix_of_prefix_length_le found (List.prefix_append _ _) length.le
    exact (both.eq_of_length length).symm
  · intro kept
    rw [kept]
    exact List.prefix_append _ _

end Text

/-! ### Filters -/

theorem containsChars_iff (part text : List Char) :
    containsChars part text = true ↔ part <:+: text := by
  induction text with
  | nil => simp [containsChars]
  | cons c rest ih =>
    rw [containsChars, Bool.or_eq_true, ih, List.isPrefixOf_iff_prefix, List.infix_cons_iff]

namespace Filter

variable {filter : Filter} {machine : Machine} {text : String}

/-- A filter that compares texts compares lower forms. -/
theorem matches_eq_holdsOfText (reads : machine.cell filter.field = .text text)
    (textual : filter.operator.isNumeric = false) :
    filter.matches machine = filter.operator.holdsOfText (Text.lowerChars text.toList)
      (Text.lowerChars filter.value.toList) := by
  simp [Filter.matches, holdsOf, reads, textual, Cell.toText?]

/-- A value that is the whole text equals it, whatever it holds. One at the front is found there
just if it keeps its sigmas, and one that keeps them is contained in the text, wherever it stands.
A value without capital sigmas has none to keep. -/
theorem matches_excerpt (filter : Filter) (machine : Machine) (before after : String)
    (reads : machine.cell filter.field = .text (before ++ filter.value ++ after)) :
    (filter.operator = .equals → before = "" → after = "" → filter.matches machine = true) ∧
    (filter.operator = .startsWith → before = "" →
      (filter.matches machine = true ↔ Text.KeepsSigmas [] filter.value.toList after.toList)) ∧
    (Text.KeepsSigmas before.toList filter.value.toList after.toList →
      (filter.operator = .contains → filter.matches machine = true) ∧
      (filter.operator = .doesNotContain → filter.matches machine = false)) ∧
    ('Σ' ∉ filter.value.toList →
      Text.KeepsSigmas before.toList filter.value.toList after.toList) := by
  have compared := fun textual => matches_eq_holdsOfText reads textual
  have whole : (before ++ filter.value ++ after).toList =
      before.toList ++ (filter.value.toList ++ after.toList) := by
    rw [String.toList_append, String.toList_append, List.append_assoc]
  rw [whole] at compared
  refine ⟨?_, ?_, fun kept => ?_, fun plain => Text.keepsSigmas_of_notMem plain _ _⟩
  · rintro operator rfl rfl
    rw [compared (by rw [operator]; rfl), operator]
    simp [FilterOperator.holdsOfText]
  · rintro operator rfl
    rw [compared (by rw [operator]; rfl), operator]
    exact List.isPrefixOf_iff_prefix.trans (Text.prefix_lowerChars_iff _ _)
  · have found := (containsChars_iff _ _).mpr kept.infix_lowerChars
    constructor
    · intro operator
      rw [compared (by rw [operator]; rfl), operator]
      exact found
    · intro operator
      rw [compared (by rw [operator]; rfl), operator, FilterOperator.holdsOfText, found]
      rfl

/-- A machine of which nothing but the location is known. -/
def machineAt (location : String) : Machine := { Machine.blank with location := some location }

/-- The filter `location contains "ΟΔΟΣ"`. -/
def containsStreet : Filter := ⟨.location, "location", .contains, "ΟΔΟΣ", .between 0 0⟩

/-- The sigma that ends the value ends a word in the text too. -/
theorem matches_excerpt_sample :
    containsStreet.matches (machineAt "İkinci ΟΔΟΣ 5") = true := by
  have reads : (machineAt "İkinci ΟΔΟΣ 5").cell containsStreet.field =
      .text ("İkinci " ++ containsStreet.value ++ " 5") := by decide +kernel
  have kept : Text.KeepsSigmas "İkinci ".toList containsStreet.value.toList " 5".toList := by
    decide +kernel
  exact ((matches_excerpt containsStreet _ "İkinci " " 5" reads).2.2.1 kept).1 rfl

/-- A value is not found wherever it stands: a sigma at its end has another form where the word goes
on. -/
theorem not_matches_excerpt : ¬ ∀ (filter : Filter) (machine : Machine) (before after : String),
    filter.value ≠ "" → machine.cell filter.field = .text (before ++ filter.value ++ after) →
    (filter.operator = .contains → filter.matches machine = true) ∧
    (filter.operator = .doesNotContain → filter.matches machine = false) ∧
    (filter.operator = .startsWith → before = "" → filter.matches machine = true) ∧
    (filter.operator = .equals → before = "" → after = "" → filter.matches machine = true) := by
  intro finds
  have reads : (machineAt "ΟΔΟΣΑ").cell containsStreet.field =
      .text ("" ++ containsStreet.value ++ "Α") := by decide +kernel
  have found := (finds containsStreet _ "" "Α" (by decide) reads).1 rfl
  have missed : containsStreet.matches (machineAt "ΟΔΟΣΑ") = false := by decide +kernel
  rw [missed] at found
  cases found

end Filter
end FleetQuery
