import FleetQuery.Proofs.Question.Boundaries

/-!
# Segments of clauses

What is read of a clause whose keyword opens the text and whose body is calm: the body as it stands.
Main statements: `detect?_eq_some` and `segment?_eq_some`.
-/
namespace FleetQuery.Clause

section

variable {window : Window} {before opening body rest : List Char} {clause : Clause}

/-- No keyword of a clause begins another one. -/
theorem eq_of_keyword_begins (first second : Clause)
    (begins : first.keyword.letters <+: second.keyword.letters) : first = second := by
  revert begins
  cases first <;> cases second <;> decide

theorem keyword_matchesAt_iff (reads : window.Reads before (opening ++ rest))
    (opens : opening.map Char.toLower = clause.keyword.letters) (other : Clause) :
    other.keyword.matchesAt window before.length = true ↔
      other.keyword.letters <+: clause.keyword.letters ++ rest.map Char.toLower := by
  rw [Keyword.matchesAt_iff other.keyword_isPlain rfl reads, List.map_append, opens]

/-- The clause whose keyword opens the text is the one that is detected. -/
theorem detect?_eq_some (reads : window.Reads before (opening ++ rest))
    (opens : opening.map Char.toLower = clause.keyword.letters) :
    detect? window before.length = some clause :=
  find?_eq_some_of_begins eq_of_keyword_begins clause.mem_all (keyword_matchesAt_iff reads opens)

/-- A clause that is opened is read up to the next one. -/
theorem segment?_of_opens (reads : window.Reads before (opening ++ rest))
    (opens : opening.map Char.toLower = clause.keyword.letters) :
    segment? window clause before.length = some
      { keyword := .between before.length (before.length + clause.name.length)
        body := window.trimSpan (.between (before ++ opening).length
          (segmentEnd window (before ++ opening).length))
        next := window.skipAhead (window.jumpTo
          (segmentEnd window (before ++ opening).length)) } := by
  have here := (keyword_matchesAt_iff reads opens clause).mpr (List.prefix_append _ _)
  have size : opening.length = clause.keyword.length := by
    rw [Keyword.length, ← opens, List.length_map]
  have stop := reads.stop_eq
  rw [List.length_append] at stop
  have jumped : window.jump before.length clause.keyword.length = (before ++ opening).length := by
    rw [Window.jump, List.length_append, ← size]
    omega
  rw [segment?, if_pos here]
  simp only [jumped]

theorem segment?_eq_some (reads : window.Reads before (opening ++ (body ++ rest)))
    (opens : opening.map Char.toLower = clause.keyword.letters)
    (calm : Calm (before ++ opening) body rest)
    (ends : rest = [] ∨ Interrupts (before ++ opening ++ body) rest)
    (trimmed : Text.isTrimmed body) :
    segment? window clause before.length = some
      { keyword := .between before.length (before.length + clause.name.length)
        body := .between (before ++ opening).length ((before ++ opening).length + body.length)
        next := window.skipAhead ((before ++ opening).length + body.length) } := by
  have stop := reads.append.stop_eq
  have whole : (body ++ rest).length = body.length + rest.length := List.length_append
  have stops := segmentEnd_eq reads.append calm ends
  have cut : window.trimSpan (.between (before ++ opening).length
      ((before ++ opening).length + body.length)) =
        .between (before ++ opening).length ((before ++ opening).length + body.length) :=
    Window.Reads.trimSpan_self reads.append trimmed
  have held : window.jumpTo ((before ++ opening).length + body.length) =
      (before ++ opening).length + body.length := by
    rw [Window.jumpTo]
    omega
  rw [segment?_of_opens reads opens]
  simp only [stops, cut, held]

end

/-- Where the reader goes on after a clause: at the end of the text or behind one space. -/
theorem skipAhead_at_end {window : Window} {before : List Char}
    (reads : window.Reads before []) : window.skipAhead before.length = before.length := by
  have stop := reads.stop_eq
  rw [Window.skipAhead]
  exact Window.skipBlanks_of_le (by simp [stop])

theorem skipAhead_over_space {window : Window} {before rest : List Char} {c : Char}
    (reads : window.Reads before (' ' :: c :: rest)) (visible : Text.isBlank c = false) :
    window.skipAhead before.length = before.length + 1 := by
  have stop := reads.stop_eq
  have spaced : window.Reads before ([' '] ++ c :: rest) := reads
  exact spaced.skipBlanks Text.isBlank_of_mem_space visible (by simp [stop])

/-- The reader goes on at the end of the text or behind the space before the next clause. -/
theorem Follows.exists_skipAhead {window : Window} {before rest : List Char}
    (follows : Follows rest) (reads : window.Reads before rest) :
    ∃ next, window.skipAhead before.length = next.length ∧ window.Reads next rest.tail := by
  rcases follows with rfl | ⟨clause, begins⟩
  · exact ⟨before, skipAhead_at_end reads, reads⟩
  · obtain ⟨more, rfl⟩ := exists_space_of_begins begins
    have named := (List.cons_prefix_cons.mp begins).2
    obtain ⟨letter, letters, spelled, visible⟩ : ∃ letter letters,
        clause.name.toList ++ [' '] = letter :: letters ∧ Text.isBlank letter = false := by
      cases clause <;> exact ⟨_, _, rfl, by decide⟩
    have opens : letter :: letters <+: more.map Char.toLower := spelled ▸ named
    cases more with
    | nil => exact absurd (List.prefix_nil.mp opens) (List.cons_ne_nil _ _)
    | cons c others =>
      have lowered : letter = c.toLower := (List.cons_prefix_cons.mp opens).1
      rw [lowered, Text.isBlank_toLower] at visible
      refine ⟨before ++ [' '], ?_, reads.tail⟩
      rw [skipAhead_over_space reads visible, List.length_append, List.length_singleton]

end FleetQuery.Clause
