import FleetQuery.Question.Query

/-!
# Reading part by part

The list of items ends where ` from ` opens the scope. What one step of the reader of clauses does:
a reader that succeeds has read every clause up to the end of the window.
-/
namespace FleetQuery

namespace Projection

/-- A list ends at ` from `. -/
theorem endsAt_of_cut (window : Window) (pivot position : Nat) :
    ∀ found ∈ cut window pivot position, endsAt window found.2 = true := by
  fun_induction cut window pivot position with
  | case1 => simp
  | case2 pivot position going ends => simpa using ends
  | case3 pivot position going unfinished comma ih =>
    intro found member
    obtain ⟨later, cut, rfl⟩ := Option.map_eq_some_iff.mp member
    exact ih later cut
  | case4 pivot position going unfinished plain joined next ih =>
    intro found member
    obtain ⟨later, cut, rfl⟩ := Option.map_eq_some_iff.mp member
    exact ih later cut
  | case5 pivot position going unfinished plain whole ih => exact ih

theorem endsAt_of_read {catalog : Catalog} {window : Window} {position : Nat} {items : Projection}
    (listed : (read catalog window position).outcome = .ok items) :
    endsAt window (read catalog window position).position = true := by
  unfold read at listed ⊢
  cases found : cut window position position with
  | none =>
    rw [found] at listed
    cases listed
  | some cutting => exact endsAt_of_cut window position position cutting found

end Projection

namespace Query

variable (catalog : Catalog) (window : Window)

/-- One round of the reader. -/
theorem readClauses_eq (query : Query) (seen : List Clause) (position : Nat) :
    readClauses catalog window query seen position =
      if window.stop ≤ position then ⟨.ok query, position⟩
      else
        match Clause.detect? window position with
        | none => ⟨.error (Clause.unsupported window position), position⟩
        | some clause =>
          if clause ∈ seen then
            ⟨.error (.locate window (.repeatedClause clause.name)
              (.between position (position + clause.name.length))), position⟩
          else
            match Clause.segment? window clause position with
            | none => ⟨.error (Clause.missing window clause position), position⟩
            | some segment =>
              match addClause catalog window query clause segment with
              | .error error => ⟨.error error, segment.next⟩
              | .ok extended =>
                readClauses catalog window extended
                  (if clause.isRepeatable then seen else clause :: seen) segment.next := by
  rw [readClauses]
  cases Clause.detect? window position with
  | none => rfl
  | some clause =>
    dsimp only
    split
    next => rfl
    next =>
      split
      next => rfl
      next =>
        split
        next absent => simp only [absent]
        next segment taken =>
          cases added : addClause catalog window query clause segment <;>
            simp only [taken, added]

theorem readClauses_of_end (query : Query) (seen : List Clause) (position : Nat)
    (finished : window.stop ≤ position) :
    readClauses catalog window query seen position = ⟨.ok query, position⟩ := by
  rw [readClauses_eq, if_pos finished]

theorem readClauses_of_clause (query extended : Query) (seen : List Clause) (position : Nat)
    (clause : Clause) (segment : Clause.Segment) (going : position < window.stop)
    (detected : Clause.detect? window position = some clause) (fresh : clause ∉ seen)
    (taken : Clause.segment? window clause position = some segment)
    (added : addClause catalog window query clause segment = .ok extended) :
    readClauses catalog window query seen position =
      readClauses catalog window extended
        (if clause.isRepeatable then seen else clause :: seen) segment.next := by
  rw [readClauses_eq, if_neg (Nat.not_le.mpr going)]
  simp only [detected, if_neg fresh, taken, added]

/-- What the reader has done where it succeeds: it was at the end, or it read one more clause and
went on. -/
theorem readClauses_cases (query result : Query) (seen : List Clause) (position : Nat)
    (returned : (readClauses catalog window query seen position).outcome = .ok result) :
    (window.stop ≤ position ∧ result = query) ∨
      ∃ clause segment extended, position < window.stop ∧
        Clause.detect? window position = some clause ∧ clause ∉ seen ∧
        Clause.segment? window clause position = some segment ∧
        addClause catalog window query clause segment = .ok extended ∧
        (readClauses catalog window extended
          (if clause.isRepeatable then seen else clause :: seen) segment.next).outcome =
            .ok result := by
  rw [readClauses_eq] at returned
  split at returned
  next finished =>
    cases returned
    exact .inl ⟨finished, rfl⟩
  next going =>
    right
    split at returned
    next => cases returned
    next clause detected =>
      split at returned
      next => cases returned
      next fresh =>
        split at returned
        next => cases returned
        next segment taken =>
          split at returned
          next => cases returned
          next extended added =>
            exact ⟨clause, segment, extended, Nat.not_le.mp going, detected, fresh, taken, added,
              returned⟩

/-- What holds where the reader begins, and after every clause that it has read, holds where it
ends. -/
theorem readClauses_run (P : Nat → Query → Prop)
    (step : ∀ position query clause segment extended, P position query →
      Clause.segment? window clause position = some segment →
      addClause catalog window query clause segment = .ok extended → P segment.next extended)
    (query result : Query) (seen : List Clause) (position : Nat) (holds : P position query)
    (returned : (readClauses catalog window query seen position).outcome = .ok result) :
    ∃ last, P last result := by
  -- a clause takes at least its keyword, so what is left gets shorter
  induction remaining : window.stop - position using Nat.strongRecOn
    generalizing query seen position with
  | ind remaining ih =>
    rcases readClauses_cases catalog window query result seen position returned with
      ⟨_, rfl⟩ | ⟨clause, segment, extended, going, _, _, taken, added, later⟩
    · exact ⟨position, holds⟩
    · have advanced := Clause.segment_next taken
      have positive := Clause.keyword_length_pos clause
      exact ih (window.stop - segment.next) (by omega) extended _ segment.next
        (step position query clause segment extended holds taken added) later rfl

/-- What stops the reader of clauses at a position before the end. -/
inductive Halts (position : Nat) (error : ParseError) : Prop where
  | undetected (detected : Clause.detect? window position = none)
      (raised : error = Clause.unsupported window position)
  | repeated (clause : Clause) (detected : Clause.detect? window position = some clause)
      (raised : error = .locate window (.repeatedClause clause.name)
        (.between position (position + clause.name.length)))
  | absent (clause : Clause) (detected : Clause.detect? window position = some clause)
      (taken : Clause.segment? window clause position = none)
      (raised : error = Clause.missing window clause position)
  | refused (query : Query) (clause : Clause) (segment : Clause.Segment)
      (taken : Clause.segment? window clause position = some segment)
      (raised : addClause catalog window query clause segment = .error error)

/-- A reader that fails has stopped somewhere, and what holds where it begins and after every clause
holds there. -/
theorem readClauses_error (P : Nat → Prop)
    (step : ∀ position clause segment, P position →
      Clause.segment? window clause position = some segment → P segment.next)
    (query : Query) (seen : List Clause) (position : Nat) (error : ParseError) (holds : P position)
    (failed : (readClauses catalog window query seen position).outcome = .error error) :
    ∃ last, P last ∧ last < window.stop ∧ Halts catalog window last error := by
  induction remaining : window.stop - position using Nat.strongRecOn
    generalizing query seen position with
  | ind remaining ih =>
    rw [readClauses_eq] at failed
    split at failed
    next => cases failed
    next going =>
      rw [Nat.not_le] at going
      split at failed
      next undetected =>
        cases failed
        exact ⟨position, holds, going, .undetected undetected rfl⟩
      next clause detected =>
        split at failed
        next =>
          cases failed
          exact ⟨position, holds, going, .repeated clause detected rfl⟩
        next =>
          split at failed
          next absent =>
            cases failed
            exact ⟨position, holds, going, .absent clause detected absent rfl⟩
          next segment taken =>
            split at failed
            next raised =>
              cases failed
              exact ⟨position, holds, going, .refused query clause segment taken raised⟩
            next extended added =>
              have advanced := Clause.segment_next taken
              have positive := Clause.keyword_length_pos clause
              exact ih (window.stop - segment.next) (by omega) extended _ segment.next
                (step position clause segment holds taken) failed rfl

/-- What one clause keeps, the whole reading keeps. -/
theorem readClauses_invariant (P : Query → Prop)
    (step : ∀ query clause segment extended, P query →
      addClause catalog window query clause segment = .ok extended → P extended)
    (query result : Query) (seen : List Clause) (position : Nat) (holds : P query)
    (returned : (readClauses catalog window query seen position).outcome = .ok result) :
    P result := by
  obtain ⟨_, kept⟩ := readClauses_run catalog window (fun _ => P)
    (fun _ query clause segment extended holds _ => step query clause segment extended holds)
    query result seen position holds returned
  exact kept

end Query
end FleetQuery
