import FleetQuery.Proofs.Marks.Parts
import FleetQuery.Proofs.Question.Numerals

/-!
# Limits

A limit is the first word of its clause. A word that denotes none is refused where it stands, and an
empty clause at its keyword. Main statement: `read_by_word`.
-/
namespace FleetQuery.Limit

variable {window : Window} {position : Nat} {segment : Clause.Segment}

/-- The first word of a clause. -/
def wordOf (window : Window) (segment : Clause.Segment) : List Char :=
  Text.firstWord (window.slice segment.body.start segment.body.stop)

/-- How a clause without a limit is refused: for its first word, or for its keyword if nothing
follows that. -/
structure Refusal (window : Window) (position : Nat) (segment : Clause.Segment)
    (error : ParseError) : Prop where
  kind : error.kind = .invalidLimit
  negative : IsNegative (wordOf window segment) →
    error.message = "Limit must be zero or a positive number."
  other : ¬ IsNegative (wordOf window segment) → error.message = "Limit must be a number."
  atWord : segment.body.isEmpty = false → wordOf window segment ≠ [] ∧
    error.span = .between segment.body.start
      (segment.body.start + (wordOf window segment).length)
  atKeyword : segment.body.isEmpty → error.span = .between position (position + 5)
  text : error.text = window.textOf error.span

/-- A clause that goes on behind its keyword goes on with a word. -/
theorem wordOf_eq_nil_iff (stands : segment.Stands window position) :
    wordOf window segment = [] ↔ segment.body.isEmpty = true := by
  obtain ⟨before, rest, reads, covers⟩ := Window.spells_slice stands.inside
  rw [wordOf]
  generalize window.slice segment.body.start segment.body.stop = text at reads covers ⊢
  have size : segment.body.length = text.length := by
    rw [covers, Span.length, Span.start_between, Span.stop_between_add, Nat.add_sub_cancel_left]
  cases text with
  | nil =>
    rw [Span.isEmpty_iff, size]
    exact iff_of_true rfl rfl
  | cons c more =>
    have going : segment.body.isEmpty = false := by
      rw [← Bool.not_eq_true, Span.isEmpty_iff, size]
      exact Nat.succ_ne_zero _
    -- the body is trimmed, so its first character is part of a word
    obtain ⟨d, here, visible⟩ := (stands.marks going).first
    have shown := Window.blankAt_of_visible here visible
    rw [covers, Span.start_between, reads.blankAt] at shown
    rw [going, Text.firstWord, List.takeWhile_cons, shown]
    simp

theorem ofSegment_of_empty (stands : segment.Stands window position)
    (empty : segment.body.isEmpty = true) :
    ofSegment window segment = .error (.locate window .limitNotANumber segment.keyword) := by
  have nothing := (wordOf_eq_nil_iff stands).mpr empty
  have place := firstWord_eq_between stands.inside
  rw [← wordOf, nothing] at place
  rw [ofSegment, place]
  simp [Span.isEmpty, Span.between]

theorem ofSegment_of_word (stands : segment.Stands window position)
    (going : segment.body.isEmpty = false) :
    ofSegment window segment = (ofWord (wordOf window segment)).mapError fun cause =>
      .locate window cause (.between segment.body.start
        (segment.body.start + (wordOf window segment).length)) := by
  have visible : wordOf window segment ≠ [] := by
    rw [Ne, wordOf_eq_nil_iff stands, going]
    exact Bool.false_ne_true
  have length := List.length_pos_of_ne_nil visible
  have spelled := (firstWord_spells stands.inside).slice
  have place := firstWord_eq_between stands.inside
  rw [← wordOf] at spelled place
  have proper : (firstWord window segment.body).isEmpty = false := by
    rw [← Bool.not_eq_true, Span.isEmpty_iff, place, Span.length, Span.start_between,
      Span.stop_between_add]
    omega
  rw [ofSegment]
  simp only [proper, spelled]
  rw [place]
  rfl

theorem ofSegment_eq_ok_iff (stands : segment.Stands window position) (rows : Nat) :
    ofSegment window segment = .ok rows ↔ Denotes (wordOf window segment) rows := by
  cases going : segment.body.isEmpty with
  | true =>
    rw [ofSegment_of_empty stands going, (wordOf_eq_nil_iff stands).mpr going]
    refine iff_of_false nofun ?_
    rintro ⟨sign, digits, numeral, _⟩
    exact not_isNumeral_nil sign digits numeral
  | false =>
    rw [ofSegment_of_word stands going, ← ofWord_eq_ok_iff]
    cases ofWord (wordOf window segment) with
    | ok value => simp [Except.mapError]
    | error cause => exact iff_of_false nofun nofun

theorem keyword_of_segment? (opens : Clause.segment? window .limit position = some segment) :
    segment.keyword = .between position (position + 5) := by
  rw [Clause.segment?] at opens
  split at opens
  next =>
    cases opens
    rfl
  next => cases opens

theorem refusal_of_empty (opens : Clause.segment? window .limit position = some segment)
    (empty : segment.body.isEmpty = true) :
    Refusal window position segment (.locate window .limitNotANumber segment.keyword) := by
  have unsigned : ¬ IsNegative (wordOf window segment) := by
    rw [(wordOf_eq_nil_iff (Clause.segment?_stands opens)).mpr empty]
    rintro ⟨digits, numeral, _⟩
    exact not_isNumeral_nil _ digits numeral
  constructor
  case kind => rfl
  case negative => exact fun below => absurd below unsigned
  case other => exact fun _ => rfl
  case atWord =>
    intro going
    rw [empty] at going
    cases going
  case atKeyword => exact fun _ => keyword_of_segment? opens
  case text => rfl

theorem refusal_of_word (stands : segment.Stands window position)
    (going : segment.body.isEmpty = false) {cause : ParseError.Cause}
    (refused : ofWord (wordOf window segment) = .error cause) :
    Refusal window position segment (.locate window cause (.between segment.body.start
      (segment.body.start + (wordOf window segment).length))) := by
  have word : wordOf window segment ≠ [] := by
    rw [Ne, wordOf_eq_nil_iff stands, going]
    exact Bool.false_ne_true
  have why := ofWord_eq_error refused
  constructor
  case kind => obtain ⟨_, rfl⟩ | ⟨_, rfl⟩ := why <;> rfl
  case negative =>
    intro below
    obtain ⟨_, rfl⟩ | ⟨other, _⟩ := why
    · rfl
    · exact absurd below other
  case other =>
    intro other
    obtain ⟨below, _⟩ | ⟨_, rfl⟩ := why
    · exact absurd below other
    · rfl
  case atWord => exact fun _ => ⟨word, rfl⟩
  case atKeyword =>
    intro empty
    rw [going] at empty
    cases empty
  case text => rfl

/-- A clause has a limit if its first word denotes one, and otherwise it is refused where that word
stands, or at the keyword if there is no word. -/
theorem read_by_word (opens : Clause.segment? window .limit position = some segment) :
    (∀ rows, (read window position).outcome = .ok rows ↔ Denotes (wordOf window segment) rows) ∧
    ∀ error, (read window position).outcome = .error error →
      Refusal window position segment error := by
  have stands := Clause.segment?_stands opens
  have outcome : (read window position).outcome = ofSegment window segment := by
    rw [read, Clause.take, opens]
  rw [outcome]
  refine ⟨ofSegment_eq_ok_iff stands, fun error refused => ?_⟩
  cases going : segment.body.isEmpty with
  | true =>
    rw [ofSegment_of_empty stands going] at refused
    cases refused
    exact refusal_of_empty opens going
  | false =>
    rw [ofSegment_of_word stands going] at refused
    cases read : ofWord (wordOf window segment) with
    | ok value =>
      rw [read] at refused
      cases refused
    | error cause =>
      rw [read] at refused
      cases refused
      exact refusal_of_word stands going read

/-- Zeros do not count, and a number beyond the greatest limit is cut to it. -/
theorem read_large_word :
    (Clause.segment? (.ofText "limit +00099999999999999999999 rows") .limit 0).isSome ∧
    (read (.ofText "limit +00099999999999999999999 rows") 0).outcome =
      .ok 18446744073709551615 := by
  have found : (Clause.segment? (.ofText "limit +00099999999999999999999 rows") .limit 0).map
      (wordOf (.ofText "limit +00099999999999999999999 rows")) =
        some "+00099999999999999999999".toList := by decide +kernel
  obtain ⟨segment, opens, word⟩ := Option.map_eq_some_iff.mp found
  refine ⟨Option.isSome_of_eq_some opens, ((read_by_word opens).1 _).mpr ?_⟩
  rw [word]
  exact ⟨['+'], "00099999999999999999999".toList,
    ⟨by decide, .inr (.inl rfl), by decide, List.all_eq_true.mp (by decide +kernel)⟩, nofun,
    by decide +kernel⟩

end FleetQuery.Limit
