import FleetQuery.Proofs.Question.Directions
import FleetQuery.Proofs.Question.Numerals
import FleetQuery.Proofs.Question.Predicates
import FleetQuery.Proofs.Question.Segments

/-!
# Reading written clauses

The body of a clause in writing is calm whatever clause follows it, so it is taken whole, and it is
read as it was written. Main statement: `Part.exists_addClause`.
-/
namespace FleetQuery.Written

/-! ### Bodies of clauses -/

/-- The labels with their directions, in lower case. -/
def orderTexts : List (List Char) :=
  labelTexts.flatMap fun text =>
    [none, some true, some false].map fun direction => text ++ directionChars direction

theorem lowered_mem_orderTexts (label : Label) (direction : Option Bool) :
    (label.chars ++ directionChars direction).map Char.toLower ∈ orderTexts := by
  have lower : (directionChars direction).map Char.toLower = directionChars direction := by
    rcases direction with _ | _ | _ <;> decide
  have listed : direction ∈ [none, some true, some false] := by
    rcases direction with _ | _ | _ <;> decide
  rw [List.map_append, lower]
  exact List.mem_flatMap.mpr ⟨_, label.lowered_mem, List.mem_map_of_mem listed⟩

/-- No clause begins in an order, both of its ends are visible, and it does not end with the letter
of `starts`. -/
theorem orderTexts_checked : ∀ text ∈ orderTexts,
    (∀ clause ∈ Clause.all, ¬ clause.boundary.letters <:+: text ++ [' ']) ∧
      Text.isTrimmed text ∧ text.getLast? ≠ some 's' := by
  decide +kernel

/-- The label of a group by is one without a direction. -/
theorem Label.append_none (label : Label) : label.chars = label.chars ++ directionChars none :=
  (List.append_nil label.chars).symm

theorem isDigit_of_mem_toString {rows : Nat} {c : Char} (member : c ∈ (toString rows).toList) :
    c.isDigit := by
  rw [Nat.toString_eq_repr, Nat.toList_repr] at member
  exact Nat.isDigit_of_mem_toDigits (by decide) (by decide) member

theorem toString_ne_nil (rows : Nat) : (toString rows).toList ≠ [] := by
  rw [Nat.toString_eq_repr, Nat.toList_repr]
  exact Nat.toDigits_ne_nil

namespace Part

variable {rest : List Char}

theorem calm (part : Part) (follows : Clause.Follows rest) (before : List Char) :
    Clause.Calm before part.body rest := by
  have labelled : ∀ (label : Label) (direction : Option Bool),
      Clause.Calm before (label.chars ++ directionChars direction) rest := by
    intro label direction
    have checked := orderTexts_checked _ (lowered_mem_orderTexts label direction)
    exact Clause.calm_before_clause (fun clause => checked.1 clause clause.mem_all) follows before
  cases part with
  | groupBy label =>
    rw [body, label.append_none]
    exact labelled label none
  | orderBy label direction => exact labelled label direction
  | limit rows fits =>
    -- digits hold no space, and a boundary begins with one
    apply Clause.calm_of_no_space
    intro space
    have digit := isDigit_of_mem_toString space
    exact absurd digit (by decide)
  | filters clause repeatable first others =>
    exact (first.calm before _).append (calm_joinedChars others _ rest)

/-- Both ends of a body are visible, and it does not end with the letter of `starts`. -/
theorem exists_ends (part : Part) :
    (∃ c rest, part.body = c :: rest ∧ Text.isBlank c = false) ∧
      ∃ front d, part.body = front ++ [d] ∧ Text.isBlank d = false ∧ d.toLower ≠ 's' := by
  have labelled : ∀ (label : Label) (direction : Option Bool),
      (∃ c rest, label.chars ++ directionChars direction = c :: rest ∧ Text.isBlank c = false) ∧
        ∃ front d, label.chars ++ directionChars direction = front ++ [d] ∧
          Text.isBlank d = false ∧ d.toLower ≠ 's' := by
    intro label direction
    obtain ⟨_, trimmed, last⟩ := orderTexts_checked _ (lowered_mem_orderTexts label direction)
    rw [Text.isTrimmed_map_toLower] at trimmed
    obtain ⟨front, d, ends, visible⟩ := Text.exists_concat_of_isTrimmed trimmed
    refine ⟨Text.exists_cons_of_isTrimmed trimmed, front, d, ends, visible, fun same => ?_⟩
    rw [ends, List.getLast?_map, List.getLast?_concat, Option.map_some, same] at last
    exact last rfl
  cases part with
  | groupBy label =>
    rw [body, label.append_none]
    exact labelled label none
  | orderBy label direction => exact labelled label direction
  | limit rows fits =>
    have visible : ∀ c ∈ (toString rows).toList, c.isDigit := fun _ => isDigit_of_mem_toString
    obtain ⟨c, others, starts⟩ := List.exists_cons_of_ne_nil (toString_ne_nil rows)
    have last := List.dropLast_append_getLast (toString_ne_nil rows)
    have digit := visible _ (List.getLast_mem (toString_ne_nil rows))
    have first : c ∈ (toString rows).toList := by
      rw [starts]
      exact List.mem_cons_self
    refine ⟨⟨c, others, starts, Text.isBlank_of_isDigit (visible c first)⟩, _, _,
      last.symm, Text.isBlank_of_isDigit digit, fun same => ?_⟩
    have lowered := Text.toNat_toLower ((toString rows).toList.getLast (toString_ne_nil rows))
    have bounds := (Text.isDigit_iff _).mp digit
    have letter : 's'.toNat = 115 := rfl
    rw [same, letter] at lowered
    split at lowered <;> omega
  | filters clause repeatable first others =>
    obtain ⟨c, rest, starts, visible⟩ := first.exists_first
    obtain ⟨front, ends⟩ := exists_quote first others
    exact ⟨⟨c, rest ++ joinedChars others, by rw [body, starts]; rfl, visible⟩,
      front, '"', ends, rfl, by decide⟩

theorem isTrimmed (part : Part) : Text.isTrimmed part.body := by
  obtain ⟨⟨c, rest, starts, visible⟩, front, d, ends, closed, _⟩ := part.exists_ends
  exact Text.isTrimmed_of_ends starts visible ends closed

/-- No body ends with the word `starts`, so a clause may follow it. -/
theorem not_endsWithStarts (part : Part) (before : List Char) :
    ¬ Clause.EndsWithStarts (before ++ part.body) := by
  obtain ⟨_, front, d, ends, _, other⟩ := part.exists_ends
  rw [ends, ← List.append_assoc]
  exact Clause.not_endsWithStarts other

end Part

/-! ### Reading one clause -/

section

variable {window : Window} {before rest : List Char}
variable (extra : List (String × String)) {segment : Clause.Segment}

theorem exists_groupBy (label : Label) (reads : window.Reads before (label.chars ++ rest))
    (body : segment.body = .between before.length (before.length + label.chars.length)) :
    ∃ groupBy, GroupBy.ofSegment (Catalog.standard.withGroups extra) window segment = .ok groupBy ∧
      groupBy.column.label = label.text := by
  have spells : window.Spells segment.body label.chars := ⟨before, rest, reads, body⟩
  have visible := spells.isEmpty_eq_false label.isTrimmed
  have shown : (Column.ofSpan window segment.body).label = label.text := spells.textOf
  refine ⟨⟨.ofSpan window segment.body, .between segment.keyword.start segment.body.stop⟩, ?_,
    shown⟩
  rw [GroupBy.ofSegment, visible, if_neg Bool.false_ne_true]
  simp only [label.known_eq_ok extra _ shown]
  rfl

theorem exists_orderBy (label : Label) (direction : Option Bool)
    (reads : window.Reads before (label.chars ++ directionChars direction ++ rest))
    (follows : rest = [] ∨ ∃ more, rest = ' ' :: more)
    (body : segment.body = .between before.length
      (before.length + (label.chars ++ directionChars direction).length)) :
    ∃ order, OrderBy.ofSegment (Catalog.standard.withGroups extra) window segment = .ok order ∧
      (order.column.label, order.ascending) = (label.text, direction.getD true) := by
  rw [List.append_assoc] at reads
  have spells : window.Spells (.between before.length (before.length + label.chars.length))
      label.chars := ⟨before, _, reads, rfl⟩
  rw [← List.append_assoc] at reads
  have split := splitDirection_eq label direction reads follows
  have visible := spells.isEmpty_eq_false label.isTrimmed
  have shown : Text.squeeze (window.textOf
      (.between before.length (before.length + label.chars.length))) = label.text := by
    rw [spells.textOf]
    exact label.squeeze_text
  refine ⟨⟨⟨label.text, .between before.length (before.length + label.chars.length)⟩,
    direction.getD true⟩, ?_, rfl⟩
  simp only [OrderBy.ofSegment, body, split, visible, shown, if_neg Bool.false_ne_true,
    label.known_eq_ok extra ⟨label.text, _⟩ rfl]
  rfl

/-- A number in decimal digits is the limit that they denote. -/
theorem ofWord_toString (rows : Nat) (fits : rows < Nat.pow 2 64) :
    Limit.ofWord (toString rows).toList = .ok rows := by
  have numeral : Limit.IsNumeral (toString rows).toList [] (toString rows).toList :=
    ⟨rfl, .inl rfl, toString_ne_nil rows, fun _ => isDigit_of_mem_toString⟩
  have value : Limit.valueOf (toString rows).toList = rows := by
    rw [Nat.toString_eq_repr, Nat.toList_repr]
    exact Nat.ofDigitChars_ten_toDigits
  have unsigned : ¬ (([] : List Char) = ['-'] ∧ Limit.valueOf (toString rows).toList ≠ 0) :=
    fun negative => nomatch negative.1
  have least : rows ≤ 18446744073709551615 := Nat.le_of_lt_succ fits
  rw [Limit.ofWord_of_numeral numeral, if_neg unsigned, value, Nat.min_eq_left least]

theorem limit_ofSegment (rows : Nat) (fits : rows < Nat.pow 2 64)
    (reads : window.Reads before ((toString rows).toList ++ rest))
    (body : segment.body = .between before.length (before.length + (toString rows).toList.length)) :
    Limit.ofSegment window segment = .ok rows := by
  have spells : window.Spells segment.body (toString rows).toList := ⟨before, rest, reads, body⟩
  have stop : segment.body.stop = before.length + (toString rows).toList.length := by
    rw [body, Span.stop_between_add]
  have inside : segment.body.stop ≤ window.stop := by
    rw [stop, reads.stop_eq, List.length_append]
    omega
  have solid : Text.firstWord (toString rows).toList = (toString rows).toList := by
    refine List.takeWhile_eq_self_iff.mpr fun c member => ?_
    rw [Text.isBlank_of_isDigit (isDigit_of_mem_toString member)]
    rfl
  have word : Limit.firstWord window segment.body = segment.body := by
    rw [Limit.firstWord_eq_between inside, spells.slice, solid, body, Span.start_between]
  have visible : segment.body.isEmpty = false :=
    spells.isEmpty_eq_false (Part.isTrimmed (.limit rows fits))
  simp only [Limit.ofSegment, word, visible, spells.slice, ofWord_toString rows fits,
    if_neg Bool.false_ne_true]
  rfl

end

/-- What a query says with one more clause. -/
def Part.addTo (content : Query.Content) : Part → Query.Content
  | .groupBy label => { content with groupBy := some label.text }
  | .orderBy label direction => { content with orderBy := some (label.text, direction.getD true) }
  | .limit rows _ => { content with limit := some rows }
  | .filters _ _ first others =>
    { content with filters := content.filters ++ (first :: others).map Predicate.content }

theorem Part.exists_addClause (part : Part) (extra : List (String × String)) {window : Window}
    {before rest : List Char} (reads : window.Reads before (part.body ++ rest))
    (follows : rest = [] ∨ ∃ more, rest = ' ' :: more) (query : Query) {segment : Clause.Segment}
    (body : segment.body = .between before.length (before.length + part.body.length)) :
    ∃ extended,
      Query.addClause (Catalog.standard.withGroups extra) window query part.clause segment =
        .ok extended ∧
      extended.content = part.addTo query.content := by
  cases part with
  | groupBy label =>
    obtain ⟨groupBy, read, shown⟩ := exists_groupBy extra label reads body
    refine ⟨{ query with groupBy := some groupBy }, ?_, ?_⟩
    · simp only [clause, Query.addClause, read]
      rfl
    · simp only [Query.content, addTo, Option.map_some, shown]
  | orderBy label direction =>
    obtain ⟨order, read, shown⟩ := exists_orderBy extra label direction reads follows body
    refine ⟨{ query with orderBy := some order }, ?_, ?_⟩
    · simp only [clause, Query.addClause, read]
      rfl
    · simp only [Query.content, addTo, Option.map_some, shown]
  | limit rows fits =>
    have read := limit_ofSegment rows fits reads body
    refine ⟨{ query with limit := some rows }, ?_, rfl⟩
    simp only [clause, Query.addClause, read]
    rfl
  | filters clause repeatable first others =>
    obtain ⟨filters, read, shown⟩ := exists_ofSegment first others extra reads body
    refine ⟨{ query with
      filters := query.filters ++ filters
      warnings := query.warnings ++ filters.filterMap Filter.warning? }, ?_, ?_⟩
    · cases clause with
      | withFilter | whereFilter =>
        simp only [Part.clause, Query.addClause, read]
        rfl
      | groupBy | orderBy | limit => cases repeatable
    · simp only [Query.content, addTo, List.map_append, shown]

end FleetQuery.Written
