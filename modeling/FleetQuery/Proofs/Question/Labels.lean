import FleetQuery.Proofs.Question.Boundaries
import FleetQuery.Proofs.Question.Written
import FleetQuery.Proofs.Text.Words

/-!
# Labels of the standard catalog

What the labels have in common, whatever their case. Each is known to the catalog, whose further
group aliases do not matter, and none holds a word of the language. The facts about their texts are
checked on the table of the catalog.
-/
namespace FleetQuery.Written

/-- The labels in lower case. -/
def labelTexts : List (List Char) := Catalog.standardFields.map fun entry => entry.1.toList

/-- What is checked of the labels: their ends, their blanks and characters, and that they end with no
direction. -/
theorem labelTexts_checked : ∀ text ∈ labelTexts,
    Text.isTrimmed text ∧ Text.isTidy text ∧ (text.all fun c => decide (c.toNat < 128)) ∧
      text.all Filter.isLabelChar ∧
      ¬ "asc".toList <:+ text ∧ ¬ "desc".toList <:+ text := by
  decide +kernel

namespace Label

variable (label : Label)

theorem lowered_mem : label.chars.map Char.toLower ∈ labelTexts :=
  List.mem_map.mpr ⟨_, label.listed, String.toList_ofList⟩

theorem toList_text : label.text.toList = label.chars := String.toList_ofList

theorem isTrimmed : Text.isTrimmed label.chars := by
  rw [← Text.isTrimmed_map_toLower]
  exact (labelTexts_checked _ label.lowered_mem).1

theorem isTidy : Text.isTidy label.chars :=
  Text.isTidy_of_toLower (labelTexts_checked _ label.lowered_mem).2.1

theorem squeeze_text : Text.squeeze label.text = label.text :=
  Text.squeeze_of_isTidy (by rw [toList_text]; exact label.isTidy)
    (by rw [toList_text]; exact label.isTrimmed)

theorem ascii : ∀ c ∈ label.chars, c.toNat < 128 := by
  apply Text.ascii_of_map_toLower
  simpa using (labelTexts_checked _ label.lowered_mem).2.2.1

theorem isLabelChar_lowered :
    ∀ c ∈ label.chars.map Char.toLower, Filter.isLabelChar c = true :=
  List.all_eq_true.mp (labelTexts_checked _ label.lowered_mem).2.2.2.1

theorem isLabelChar : ∀ c ∈ label.chars, Filter.isLabelChar c = true := by
  intro c member
  have lowered := label.isLabelChar_lowered _ (List.mem_map_of_mem member)
  rwa [Filter.isLabelChar, Text.isAlphanum_toLower, Text.isBlank_toLower] at lowered

/-- No label ends with a direction. -/
theorem not_direction :
    ¬ "asc".toList <:+ label.chars.map Char.toLower ∧
      ¬ "desc".toList <:+ label.chars.map Char.toLower :=
  (labelTexts_checked _ label.lowered_mem).2.2.2.2

/-! ### The catalog -/

theorem normalize_text :
    Catalog.normalize label.text = String.ofList (label.chars.map Char.toLower) := by
  have trimmed : Text.trim label.text = label.text :=
    Text.trim_of_isTrimmed (by rw [toList_text]; exact label.isTrimmed)
  rw [Catalog.normalize, trimmed, Text.lower, toList_text, Text.lowerChars_ascii _ label.ascii]

/-- Group aliases do not change what a label names. -/
theorem field?_eq_some (extra : List (String × String)) :
    (Catalog.standard.withGroups extra).field? label.text = some label.field := by
  have all : ∀ entry ∈ Catalog.standardFields,
      Catalog.standard.fields.get? entry.1 = some entry.2 := by decide +kernel
  rw [Catalog.field?, normalize_text]
  exact all _ label.listed

/-- Group aliases do not matter to a column. -/
theorem known_eq_ok (extra : List (String × String)) {window : Window} (column : Column)
    (shown : column.label = label.text) (cause : ParseError.Cause) :
    column.known window (Catalog.standard.withGroups extra) cause = .ok column := by
  rw [Column.known, shown, label.field?_eq_some, Option.isSome_some, if_pos rfl]

end Label
end FleetQuery.Written
