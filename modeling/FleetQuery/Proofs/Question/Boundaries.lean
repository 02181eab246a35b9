import FleetQuery.Proofs.Question.Phrases
import FleetQuery.Question.Clause
import Mathlib.Data.List.Infix

/-!
# Boundaries of clauses

Where clauses begin, said of the text before a position and the text after it. A text that is calm
holds no position where a clause begins, so the segment that it fills ends right after it. Main
statements: `boundaryAt?_isSome_iff` and `segmentEnd_eq`.
-/
namespace FleetQuery.Clause

/-! ### Interruptions -/

/-- Whether the last word of a text is `starts`, in any case. -/
def EndsWithStarts (before : List Char) : Prop :=
  ∃ front word, before = front ++ word ∧ word.map Char.toLower = "starts".toList ∧
    (front = [] ∨ ∃ earlier b, front = earlier ++ [b] ∧ Text.isBlank b = true)

/-- Whether a clause begins after the blank that `rest` begins with. -/
def Interrupts (before rest : List Char) : Prop :=
  ∃ clause : Clause, clause.boundary.letters <+: rest.map Char.toLower ∧
    ¬ (clause = .withFilter ∧ EndsWithStarts before)

theorem boundary_isPlain (clause : Clause) : clause.boundary.isPlain := by
  cases clause <;> decide

theorem keyword_isPlain (clause : Clause) : clause.keyword.isPlain := by
  cases clause <;> decide

theorem mem_all (clause : Clause) : clause ∈ all := by
  cases clause <;> decide

section

variable {window : Window} {before rest : List Char}

theorem followsStarts_iff (reads : window.Reads before rest) :
    followsStarts window before.length = true ↔ EndsWithStarts before := by
  simp only [followsStarts, Bool.and_eq_true, decide_eq_true_eq, Bool.or_eq_true, beq_iff_eq,
    Text.sameIgnoringAsciiCase]
  constructor
  · rintro ⟨⟨long, opens⟩, same⟩
    have parts : before = before.take (before.length - 6) ++ before.drop (before.length - 6) :=
      (List.take_append_drop ..).symm
    have size : (before.take (before.length - 6)).length = before.length - 6 := by
      rw [List.length_take]
      omega
    have word : (before.drop (before.length - 6)).length = 6 := by
      rw [List.length_drop]
      omega
    have here : window.Reads (before.take (before.length - 6))
        (before.drop (before.length - 6) ++ rest) := by
      rw [Window.Reads, ← List.append_assoc, ← parts]
      exact reads
    have cut := here.slice
    rw [size, word, Nat.sub_add_cancel long] at cut
    rw [cut] at same
    refine ⟨_, _, parts, same, ?_⟩
    rcases opens with short | blank
    · left
      rw [short]
      rfl
    -- the word is the first of the text, or the character before it is a blank
    · by_cases empty : before.take (before.length - 6) = []
      · exact .inl empty
      · obtain ⟨earlier, b, split⟩ : ∃ earlier b,
            before.take (before.length - 6) = earlier ++ [b] :=
          ⟨_, _, (List.dropLast_append_getLast empty).symm⟩
        right
        refine ⟨earlier, b, split, ?_⟩
        have length := congrArg List.length split
        rw [size, List.length_append, List.length_singleton] at length
        rw [split, Window.Reads, List.append_assoc] at here
        have read : window.blankAt earlier.length = Text.isBlank b := Window.Reads.blankAt here
        rw [← read, show earlier.length = before.length - 7 by omega]
        exact blank
  · rintro ⟨front, word, rfl, same, opens⟩
    have size : word.length = 6 := by
      rw [← List.length_map (f := Char.toLower), same]
      rfl
    have here : window.Reads front (word ++ rest) := by
      rw [Window.Reads, ← List.append_assoc]
      exact reads
    have cut := here.slice
    have place : (front ++ word).length - 6 = front.length := by
      rw [List.length_append]
      omega
    rw [← List.length_append] at cut
    rw [place, cut, same]
    refine ⟨⟨by rw [List.length_append]; omega, ?_⟩, by decide⟩
    rcases opens with rfl | ⟨earlier, b, rfl, blank⟩
    · left
      rw [List.length_append, size]
      rfl
    · right
      rw [Window.Reads, List.append_assoc] at here
      have read : window.blankAt earlier.length = Text.isBlank b := Window.Reads.blankAt here
      rw [← blank, ← read]
      congr 1
      simp only [List.length_append, List.length_singleton]
      omega

/-- A clause begins where the text after a position interrupts the text before it. -/
theorem boundaryAt?_isSome_iff (reads : window.Reads before rest) :
    (boundaryAt? window before.length).isSome = true ↔ Interrupts before rest := by
  have holds : ∀ clause : Clause, isBoundaryAt window before.length clause = true ↔
      clause.boundary.letters <+: rest.map Char.toLower ∧
        ¬ (clause = .withFilter ∧ EndsWithStarts before) := by
    intro clause
    rw [isBoundaryAt, Bool.and_eq_true, Keyword.matchesAt_iff clause.boundary_isPlain rfl reads,
      Bool.not_eq_true', ← Bool.not_eq_true, Bool.and_eq_true, beq_iff_eq, followsStarts_iff reads]
  rw [boundaryAt?, List.find?_isSome]
  constructor
  · rintro ⟨clause, _, boundary⟩
    exact ⟨clause, (holds clause).mp boundary⟩
  · rintro ⟨clause, boundary⟩
    exact ⟨clause, clause.mem_all, (holds clause).mpr boundary⟩

theorem boundaryAt?_eq_none (reads : window.Reads before rest) (calm : ¬ Interrupts before rest) :
    boundaryAt? window before.length = none := by
  rw [← Option.not_isSome_iff_eq_none, boundaryAt?_isSome_iff reads]
  exact calm

end

/-! ### Calm text -/

/-- Whether no clause begins within `chunk`, which stands between `before` and `rest`. -/
def Calm (before chunk rest : List Char) : Prop :=
  ∀ left right, chunk = left ++ right → right ≠ [] → ¬ Interrupts (before ++ left) (right ++ rest)

/-- Where the text between `start` and the next clause ends. -/
theorem segmentEnd_eq {window : Window} {before chunk rest : List Char}
    (reads : window.Reads before (chunk ++ rest)) (calm : Calm before chunk rest)
    (ends : rest = [] ∨ Interrupts (before ++ chunk) rest) :
    segmentEnd window before.length = before.length + chunk.length := by
  have inner : ∀ i, before.length ≤ i → i < before.length + chunk.length →
      (boundaryAt? window i).isSome = false := by
    intro i above below
    obtain ⟨left, c, right, rfl, rfl, here⟩ := reads.chunk_getElem? above below
    have none := boundaryAt?_eq_none here (calm left (c :: right) rfl (List.cons_ne_nil c right))
    rw [← List.length_append, none]
    rfl
  have stop := reads.stop_eq
  rw [List.length_append] at stop
  -- nothing begins within the chunk, so the search ends at the clause after it or finds none
  rcases ends with rfl | interrupts
  · have nothing : firstIn before.length window.stop
        (fun i => (boundaryAt? window i).isSome) = none := by
      apply firstIn_eq_none
      intro i above below
      exact inner i above (by simpa [stop] using below)
    rw [segmentEnd, findBoundary?, nothing]
    simpa using stop
  · have opens := (boundaryAt?_isSome_iff reads.append).mpr interrupts
    rw [List.length_append] at opens
    obtain ⟨clause, found⟩ := Option.isSome_iff_exists.mp opens
    have inside : 0 < rest.length := by
      obtain ⟨clause, begins, _⟩ := interrupts
      have length := begins.length_le
      rw [List.length_map] at length
      exact Nat.lt_of_lt_of_le (by cases clause <;> decide) length
    have first : firstIn before.length window.stop
        (fun i => (boundaryAt? window i).isSome) = some (before.length + chunk.length) :=
      firstIn_eq_some opens inner (by omega) (by omega)
    rw [segmentEnd, findBoundary?, first]
    simp [found]

theorem Calm.append {before first second rest : List Char}
    (earlier : Calm before first (second ++ rest)) (later : Calm (before ++ first) second rest) :
    Calm before (first ++ second) rest := by
  intro left right split nonempty
  -- a position in the two texts is in the second one or within the first
  rcases List.append_eq_append_iff.mp split with ⟨middle, rfl, rfl⟩ | ⟨middle, rfl, rfl⟩
  · have inner := later middle right rfl nonempty
    rwa [List.append_assoc] at inner
  · by_cases empty : middle = []
    · subst empty
      have inner := later [] second rfl (by simpa using nonempty)
      simpa using inner
    · have inner := earlier left middle rfl empty
      rwa [← List.append_assoc] at inner

theorem calm_nil (before rest : List Char) : Calm before [] rest := by
  intro left right split nonempty
  exact absurd (List.append_eq_nil_iff.mp split.symm).2 nonempty

/-! ### Texts that are calm -/

theorem boundary_letters (clause : Clause) :
    clause.boundary.letters = ' ' :: (clause.name.toList ++ [' ']) := rfl

/-- A clause begins with a space. -/
theorem exists_space_of_begins {clause : Clause} {rest : List Char}
    (begins : clause.boundary.letters <+: rest.map Char.toLower) : ∃ more, rest = ' ' :: more := by
  cases rest with
  | nil => exact absurd (List.prefix_nil.mp begins) (List.cons_ne_nil _ _)
  | cons c more =>
    rw [boundary_letters, List.map_cons, List.cons_prefix_cons] at begins
    have space := (Text.toLower_eq_iff c ' ' (by decide) (by decide)).mp begins.1.symm
    exact ⟨more, by rw [space]⟩

theorem calm_of_no_space {chunk : List Char} (spaceless : ' ' ∉ chunk) (before rest : List Char) :
    Calm before chunk rest := by
  intro left right split nonempty interrupts
  obtain ⟨clause, begins, _⟩ := interrupts
  obtain ⟨more, opens⟩ := exists_space_of_begins begins
  cases right with
  | nil => exact nonempty rfl
  | cons c right =>
    rw [List.cons_append, List.cons.injEq] at opens
    exact spaceless (by simp [split, opens.1])

/-- No boundary holds a quote, so none reaches over one. -/
theorem prefix_of_prefix_quote {clause : Clause} {left right : List Char}
    (begins : clause.boundary.letters <+: (left ++ '"' :: right).map Char.toLower) :
    clause.boundary.letters <+: left.map Char.toLower := by
  rw [List.map_append, List.map_cons] at begins
  have absent : Char.toLower '"' ∉ clause.boundary.letters := by cases clause <;> decide
  exact prefix_of_prefix_append_cons absent begins

/-- Text before a quote is calm if no boundary occurs in it. -/
theorem calm_before_quote {chunk : List Char}
    (absent : ∀ clause : Clause, ¬ clause.boundary.letters <:+: chunk.map Char.toLower)
    (before rest : List Char) : Calm before chunk ('"' :: rest) := by
  rintro left right rfl nonempty ⟨clause, begins, _⟩
  have inside := (prefix_of_prefix_quote begins).isInfix
  apply absent clause
  rw [List.map_append]
  exact inside.trans (List.suffix_append _ _).isInfix

/-- Whether a boundary begins within the text only as the word `with` after the word `starts`. The
text before it is held in reverse. -/
def isCalmButForStarts (seen : List Char) : List Char → Bool
  | [] => true
  | c :: rest =>
    (c != ' ' || all.all fun clause => !clause.boundary.letters.isPrefixOf (c :: rest) ||
      (clause == .withFilter && " starts".toList.reverse.isPrefixOf seen)) &&
    isCalmButForStarts (c :: seen) rest

theorem suffix_of_isCalmButForStarts {seen left right : List Char} {clause : Clause}
    (checked : isCalmButForStarts seen (left ++ right))
    (begins : clause.boundary.letters <+: right) :
    clause = .withFilter ∧ " starts".toList <:+ seen.reverse ++ left := by
  induction left generalizing seen with
  | nil =>
    cases right with
    | nil => exact absurd (List.prefix_nil.mp begins) (List.cons_ne_nil _ _)
    | cons c rest =>
      have space : c = ' ' := (List.cons_prefix_cons.mp begins).1.symm
      rw [List.nil_append, isCalmButForStarts, Bool.and_eq_true, Bool.or_eq_true] at checked
      have all := checked.1.resolve_left (by simp [space])
      have here := List.all_eq_true.mp all clause clause.mem_all
      rw [List.isPrefixOf_iff_prefix.mpr begins] at here
      simp only [Bool.not_true, Bool.false_or, Bool.and_eq_true, beq_iff_eq] at here
      refine ⟨here.1, ?_⟩
      have word := List.isPrefixOf_iff_prefix.mp here.2
      rw [← List.reverse_suffix, List.reverse_reverse] at word
      rw [List.append_nil]
      exact word
  | cons c left ih =>
    rw [List.cons_append, isCalmButForStarts, Bool.and_eq_true] at checked
    have later := ih checked.2
    rwa [List.reverse_cons, List.append_assoc] at later

theorem calm_before_quote_of_starts {chunk : List Char}
    (checked : isCalmButForStarts [] (chunk.map Char.toLower)) (before rest : List Char) :
    Calm before chunk ('"' :: rest) := by
  rintro left right rfl nonempty ⟨clause, begins, uncovered⟩
  rw [List.map_append] at checked
  obtain ⟨same, front, split⟩ :=
    suffix_of_isCalmButForStarts checked (prefix_of_prefix_quote begins)
  rw [List.reverse_nil, List.nil_append] at split
  refine uncovered ⟨same, ?_⟩
  obtain ⟨earlier, others, rfl, _, lowered⟩ := List.map_eq_append_iff.mp split.symm
  obtain ⟨b, word, rfl, space, spelled⟩ := List.map_eq_cons_iff.mp lowered
  refine ⟨before ++ earlier ++ [b], word, by simp, spelled, .inr ⟨before ++ earlier, b, rfl, ?_⟩⟩
  rw [← Text.isBlank_toLower, space]
  rfl

/-- Whether a boundary begins where the text is over or a clause follows. -/
def Follows (rest : List Char) : Prop :=
  rest = [] ∨ ∃ clause : Clause, clause.boundary.letters <+: rest.map Char.toLower

theorem Follows.space {rest : List Char} (follows : Follows rest) :
    rest = [] ∨ ∃ more, rest = ' ' :: more := by
  rcases follows with rfl | ⟨clause, begins⟩
  · exact .inl rfl
  · exact .inr (exists_space_of_begins begins)

/-- Where one boundary goes on after its first character no other one begins. -/
theorem not_infix_tail_boundary (first second : Clause) :
    ¬ second.boundary.letters.take 2 <:+: first.boundary.letters.tail := by
  cases first <;> cases second <;> decide

/-- Text before a clause is calm if no boundary occurs in it and the space after it. -/
theorem calm_before_clause {chunk : List Char}
    (absent : ∀ clause : Clause, ¬ clause.boundary.letters <:+: chunk.map Char.toLower ++ [' '])
    {rest : List Char} (follows : Follows rest) (before : List Char) : Calm before chunk rest := by
  rintro left right rfl nonempty ⟨clause, begins, _⟩
  rw [List.map_append] at begins absent
  have suffix : right.map Char.toLower ++ [' '] <:+:
      left.map Char.toLower ++ right.map Char.toLower ++ [' '] := by
    rw [List.append_assoc]
    exact (List.suffix_append _ _).isInfix
  rcases follows with rfl | ⟨other, opens⟩
  · apply absent clause
    rw [List.map_nil, List.append_nil] at begins
    exact (begins.trans (List.prefix_append _ _)).isInfix.trans suffix
  · obtain ⟨more, split⟩ := opens
    -- a boundary that reaches into the clause would hold its space with the letter after it
    obtain ⟨letter, two⟩ : ∃ letter, other.boundary.letters.take 2 = [' ', letter] := by
      cases other <;> exact ⟨_, rfl⟩
    have pair : other.boundary.letters = ' ' :: letter :: other.boundary.letters.drop 2 := by
      rw [← List.take_append_drop 2 other.boundary.letters, two]
      rfl
    rw [← split, pair] at begins
    have single := not_infix_tail_boundary clause other
    rw [two] at single
    have inside := prefix_append_space (by simpa using nonempty) single begins
    exact absent clause (inside.isInfix.trans suffix)

/-- Unless the text ends with the word `starts`, a clause that follows ends its segment. -/
theorem Follows.ends {rest : List Char} (follows : Follows rest) {before : List Char}
    (free : ¬ EndsWithStarts before) : rest = [] ∨ Interrupts before rest := by
  rcases follows with rfl | ⟨clause, begins⟩
  · exact .inl rfl
  · exact .inr ⟨clause, begins, fun covered => free covered.2⟩

theorem not_endsWithStarts {front : List Char} {c : Char} (other : c.toLower ≠ 's') :
    ¬ EndsWithStarts (front ++ [c]) := by
  rintro ⟨earlier, word, split, spelled, _⟩
  have last := congrArg List.getLast? split
  have spelling := congrArg List.getLast? spelled
  rw [List.getLast?_map] at spelling
  cases ending : word.getLast? with
  | none =>
    rw [ending] at spelling
    cases spelling
  | some d =>
    rw [List.getLast?_concat, List.getLast?_append, ending] at last
    cases last
    rw [ending] at spelling
    exact other (Option.some.inj spelling)

end FleetQuery.Clause
