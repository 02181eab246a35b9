import FleetQuery.Proofs.Recasting.Questions

/-!
# Blanks around a question

Blanks before and after a question change nothing of what is read but the places, which are counted
from the first character that was typed. Main statement: `parse_between_blanks`.
-/
namespace FleetQuery

namespace Window

/-- The window on a text with something visible begins before it ends. -/
theorem start_lt_stop {question : String}
    (visible : ∃ c ∈ question.toList, Text.isBlank c = false) :
    (ofText question).start < (ofText question).stop := by
  obtain ⟨lead, text, trail, split, leading, trimmed, trailing⟩ := Text.exists_trimmed visible
  obtain ⟨c, rest, rfl, _⟩ := Text.exists_cons_of_isTrimmed trimmed
  obtain ⟨start, reads⟩ := ofChars_of_trimmed leading trimmed trailing
  have stop := reads.stop_eq
  rw [ofText, split, start, stop, List.length_cons]
  omega

/-- And it begins visibly. -/
theorem blankAt_start {question : String}
    (visible : ∃ c ∈ question.toList, Text.isBlank c = false) :
    (ofText question).blankAt (ofText question).start = false := by
  obtain ⟨lead, text, trail, split, leading, trimmed, trailing⟩ := Text.exists_trimmed visible
  obtain ⟨c, rest, rfl, shown⟩ := Text.exists_cons_of_isTrimmed trimmed
  obtain ⟨start, reads⟩ := ofChars_of_trimmed leading trimmed trailing
  rw [ofText, split, start, reads.blankAt]
  exact shown

/-- A visible character is found from the start on. -/
theorem skipAhead_start_lt {question : String}
    (visible : ∃ c ∈ question.toList, Text.isBlank c = false) :
    (ofText question).skipAhead (ofText question).start < (ofText question).stop := by
  have nonempty := start_lt_stop visible
  exact skipBlanks_lt (blankAt_last nonempty) (Nat.le_sub_one_of_lt nonempty) (by omega)

/-- Between blanks a text is read as it is alone, as much later as there are blanks before it. -/
theorem alike_between_blanks {lead question trail : String}
    (leading : ∀ b ∈ lead.toList, Text.isBlank b = true)
    (visible : ∃ c ∈ question.toList, Text.isBlank c = false)
    (trailing : ∀ b ∈ trail.toList, Text.isBlank b = true) :
    Alike (.moving lead.toList.length) (ofText question) (ofText (lead ++ question ++ trail)) := by
  obtain ⟨before, text, after, split, blankBefore, trimmed, blankAfter⟩ :=
    Text.exists_trimmed visible
  have inner := ofChars_of_trimmed blankBefore trimmed blankAfter
  have outer := ofChars_of_trimmed
    (List.forall_mem_append.mpr ⟨leading, blankBefore⟩) trimmed
    (List.forall_mem_append.mpr ⟨blankAfter, trailing⟩)
  have whole : (lead ++ question ++ trail).toList =
      lead.toList ++ before ++ (text ++ (after ++ trail.toList)) := by
    simp [String.toList_append, split]
  rw [← split] at inner
  rw [← whole] at outer
  obtain ⟨innerStart, innerReads⟩ := inner
  obtain ⟨outerStart, outerReads⟩ := outer
  have innerStop := innerReads.stop_eq
  have outerStop := outerReads.stop_eq
  rw [List.length_append] at outerStart outerStop
  constructor
  · rw [ofText, ofText, innerStart, outerStart, Nat.add_comm]
    rfl
  · rw [ofText, ofText, innerStop, outerStop]
    simp only [Recasting.moving]
    omega
  · intro i inside
    have later : i + lead.toList.length <
        (ofChars (lead ++ question ++ trail).toList).stop := by
      rw [ofText, innerStop] at inside
      omega
    simp only [Recasting.moving, ofText]
    rw [innerReads.getElem? inside, outerReads.getElem? later, List.append_assoc,
      List.getElem?_append_right (Nat.le_add_left ..), Nat.add_sub_cancel]
  · intro i early
    have inside : i < (ofChars (lead ++ question ++ trail).toList).stop := by
      rw [outerStop]
      exact Nat.lt_of_lt_of_le early (by rw [Nat.add_assoc]; exact Nat.le_add_right ..)
    have shown : (ofChars (lead ++ question ++ trail).toList).chars[i]? = lead.toList[i]? := by
      rw [outerReads.getElem? inside, List.append_assoc, List.getElem?_append_left early]
    rw [ofText, blankAt, shown, List.getElem?_eq_getElem early]
    exact leading _ (List.getElem_mem early)

end Window

namespace Query

/-- A question between blanks is read as it is alone, or fails for the same cause with the same text.
Every span is moved by the number of characters before the question. -/
theorem parse_between_blanks (catalog : Catalog) (lead question trail : String)
    (leading : ∀ b ∈ lead.toList, Text.isBlank b = true)
    (visible : ∃ c ∈ question.toList, Text.isBlank c = false)
    (trailing : ∀ b ∈ trail.toList, Text.isBlank b = true) :
    parse catalog (lead ++ question ++ trail) =
      match parse catalog question with
      | .ok query => .ok ((Recasting.moving lead.length).query query)
      | .error error => .error { error with span := error.span.moved lead.length } := by
  have alike := Window.alike_between_blanks leading visible trailing
  have read := read_alike alike catalog (Window.skipAhead_start_lt visible)
  have still : (Recasting.moving lead.toList.length).still = .moving 0 := rfl
  rw [still, Recasting.outcome_moving_zero, String.length_toList] at read
  refine read.trans ?_
  change Recasting.outcome _ _ (parse catalog question) = _
  cases parse catalog question with
  | ok query => rfl
  | error error =>
    simp only [Recasting.outcome, Recasting.error, Recasting.cause_moving, Recasting.text_moving]
    rfl

/-- Blanks are told by their property, and not by the space alone. -/
theorem parse_sample_between_blanks :
    parse Catalog.standard ("\u3000\t" ++ "Get role from all" ++ "\u00a0") =
      .ok ⟨[⟨"role", .between 6 10⟩], [], ⟨.all, .between 16 19⟩, [], none, none, none, []⟩ := by
  have leading : ∀ b ∈ "\u3000\t".toList, Text.isBlank b = true := by
    simp [Text.isBlank, Text.inRanges, Text.blankRanges]
  have trailing : ∀ b ∈ "\u00a0".toList, Text.isBlank b = true := by
    simp [Text.isBlank, Text.inRanges, Text.blankRanges]
  rw [parse_between_blanks Catalog.standard "\u3000\t" "Get role from all" "\u00a0" leading
    ⟨'G', by decide, by decide⟩ trailing]
  decide +kernel

end Query
end FleetQuery
