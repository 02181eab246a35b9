import Mathlib.Data.List.Forall2

/-!
# Outcomes

When steps that can fail succeed. A traversal of a list does exactly when every step does, and its
results stand in the order of the list.
-/
namespace FleetQuery

variable {ε α β : Type}

/-- Lists with the same values of a function are related item by item. -/
theorem forall₂_of_map_eq {f : α → β} {R : α → α → Prop}
    (related : ∀ left right, f left = f right → R left right) {lefts rights : List α}
    (same : lefts.map f = rights.map f) : List.Forall₂ R lefts rights := by
  rw [← List.forall₂_eq_eq_eq, List.forall₂_map_left_iff, List.forall₂_map_right_iff] at same
  exact same.imp related

theorem exists_eq_ok_of_isOk {ε α : Type} {outcome : Except ε α} (succeeds : outcome.isOk) :
    ∃ value, outcome = .ok value := by
  cases outcome with
  | error error => cases succeeds
  | ok value => exact ⟨value, rfl⟩

theorem map_eq_ok_iff (outcome : Except ε α) (f : α → β) (result : β) :
    outcome.map f = .ok result ↔ ∃ value, outcome = .ok value ∧ f value = result := by
  cases outcome <;> simp [Except.map]

theorem map_eq_error_iff (outcome : Except ε α) (f : α → β) (failure : ε) :
    outcome.map f = .error failure ↔ outcome = .error failure := by
  cases outcome <;> simp [Except.map]

theorem bind_eq_ok_iff (outcome : Except ε α) (f : α → Except ε β) (result : β) :
    outcome >>= f = .ok result ↔ ∃ value, outcome = .ok value ∧ f value = .ok result := by
  cases outcome <;> simp [bind, Except.bind]

theorem mapM_eq_ok_iff (f : α → Except ε β) (inputs : List α) (outputs : List β) :
    inputs.mapM f = .ok outputs ↔
      List.Forall₂ (fun input output => f input = .ok output) inputs outputs := by
  induction inputs generalizing outputs with
  | nil => cases outputs <;> simp [pure, Except.pure]
  | cons input rest ih =>
    rw [List.mapM_cons, List.forall₂_cons_left_iff]
    cases first : f input with
    | error failure => simp [bind, Except.bind]
    | ok output =>
      cases others : rest.mapM f with
      | error failure =>
        simp only [bind, Except.bind, reduceCtorEq, false_iff]
        rintro ⟨_, tail, _, traversed, _⟩
        rw [← ih, others] at traversed
        cases traversed
      | ok results =>
        simp only [bind, Except.bind, pure, Except.pure, Except.ok.injEq]
        constructor
        · rintro rfl
          exact ⟨output, results, rfl, (ih results).mp others, rfl⟩
        · rintro ⟨_, tail, rfl, traversed, rfl⟩
          rw [← ih, others, Except.ok.injEq] at traversed
          rw [traversed]

/-- A traversal whose steps all succeed is a map. -/
theorem mapM_eq_ok_map (f : α → Except ε β) (g : α → β) (inputs : List α)
    (succeeds : ∀ input ∈ inputs, f input = .ok (g input)) :
    inputs.mapM f = .ok (inputs.map g) := by
  rw [mapM_eq_ok_iff, List.forall₂_map_right_iff, List.forall₂_same]
  exact succeeds

/-- A traversal whose steps all have a value is a map. -/
theorem mapM_eq_some_map (f : α → Option β) (g : α → β) (inputs : List α)
    (succeeds : ∀ input ∈ inputs, f input = some (g input)) :
    inputs.mapM f = some (inputs.map g) := by
  induction inputs with
  | nil => rfl
  | cons input rest ih =>
    have later := ih fun other member => succeeds other (List.mem_cons_of_mem _ member)
    simp [List.mapM_cons, succeeds input List.mem_cons_self, later]

/-- Traversals whose steps agree agree. -/
theorem mapM_map_congr {γ : Type} {f : α → Except ε β} {g : γ → Except ε β} {place : α → γ}
    {inputs : List α} (agree : ∀ input ∈ inputs, g (place input) = f input) :
    (inputs.map place).mapM g = inputs.mapM f := by
  induction inputs with
  | nil => rfl
  | cons input rest ih =>
    have later := ih fun other member => agree other (List.mem_cons_of_mem _ member)
    rw [List.map_cons, List.mapM_cons, List.mapM_cons, agree input List.mem_cons_self, later]

/-- A traversal of inputs that stand for targets has results that stand for the same targets. -/
theorem exists_mapM_of_forall₂ {γ : Type} {f : α → Except ε β} {R : α → γ → Prop}
    {S : γ → β → Prop} (step : ∀ input target, R input target → ∃ output, f input = .ok output ∧
      S target output) {inputs : List α} {targets : List γ}
    (related : List.Forall₂ R inputs targets) :
    ∃ outputs, inputs.mapM f = .ok outputs ∧ List.Forall₂ S targets outputs := by
  induction related with
  | nil => exact ⟨[], rfl, .nil⟩
  | @cons input target inputs targets here later ih =>
    obtain ⟨output, first, shown⟩ := step input target here
    obtain ⟨outputs, others, shows⟩ := ih
    refine ⟨output :: outputs, ?_, .cons shown shows⟩
    simp [List.mapM_cons, first, others, bind, Except.bind, pure, Except.pure]

/-- Every result of a traversal comes from a step. -/
theorem mapM_mem {f : α → Except ε β} {inputs : List α} {outputs : List β}
    (traversed : inputs.mapM f = .ok outputs) {output : β} (member : output ∈ outputs) :
    ∃ input ∈ inputs, f input = .ok output := by
  -- the induction is on the inputs beside the outputs, so that a result leads back to its input
  induction (mapM_eq_ok_iff f inputs outputs).mp traversed with
  | nil => cases member
  | @cons input result rest results here related ih =>
    rcases List.mem_cons.mp member with rfl | later
    · exact ⟨input, List.mem_cons_self, here⟩
    · obtain ⟨source, listed, found⟩ := ih ((mapM_eq_ok_iff f rest results).mpr related) later
      exact ⟨source, List.mem_cons_of_mem _ listed, found⟩

/-- Every step of a traversal has a result. -/
theorem mapM_of_mem {f : α → Except ε β} {inputs : List α} {outputs : List β}
    (traversed : inputs.mapM f = .ok outputs) {input : α} (member : input ∈ inputs) :
    ∃ output ∈ outputs, f input = .ok output := by
  induction (mapM_eq_ok_iff f inputs outputs).mp traversed with
  | nil => cases member
  | @cons input result rest results here related ih =>
    rcases List.mem_cons.mp member with rfl | later
    · exact ⟨result, List.mem_cons_self, here⟩
    · obtain ⟨output, listed, found⟩ := ih ((mapM_eq_ok_iff f rest results).mpr related) later
      exact ⟨output, List.mem_cons_of_mem _ listed, found⟩

/-- A traversal fails with the first step that does. -/
theorem mapM_eq_error_iff (f : α → Except ε β) (inputs : List α) (failure : ε) :
    inputs.mapM f = .error failure ↔ ∃ before input after, inputs = before ++ input :: after ∧
      (∀ earlier ∈ before, ∃ output, f earlier = .ok output) ∧ f input = .error failure := by
  induction inputs with
  | nil => simp [pure, Except.pure]
  | cons input rest ih =>
    rw [List.mapM_cons]
    cases first : f input with
    | error other =>
      constructor
      · rintro failed
        cases failed
        exact ⟨[], input, rest, rfl, List.forall_mem_nil _, first⟩
      · rintro ⟨before, found, after, split, succeed, failed⟩
        cases before with
        | nil =>
          cases split
          rw [first] at failed
          cases failed
          rfl
        | cons earlier before =>
          cases split
          obtain ⟨output, succeeded⟩ := succeed input List.mem_cons_self
          rw [first] at succeeded
          cases succeeded
    | ok output =>
      have later : (Except.ok output >>= fun result => do
          let results ← rest.mapM f
          pure (result :: results) : Except ε (List β)) = .error failure ↔
            rest.mapM f = .error failure := by
        cases rest.mapM f <;> simp [bind, Except.bind, pure, Except.pure]
      rw [later, ih]
      constructor
      · rintro ⟨before, found, after, rfl, succeed, failed⟩
        exact ⟨input :: before, found, after, rfl,
          List.forall_mem_cons.mpr ⟨⟨output, first⟩, succeed⟩, failed⟩
      · rintro ⟨before, found, after, split, succeed, failed⟩
        cases before with
        | nil =>
          cases split
          rw [first] at failed
          cases failed
        | cons earlier before =>
          cases split
          exact ⟨before, found, after, rfl, fun one member =>
            succeed one (List.mem_cons_of_mem _ member), failed⟩

/-- A traversal fails only where a step fails. -/
theorem mapM_error {f : α → Except ε β} {inputs : List α} {failure : ε}
    (failed : inputs.mapM f = .error failure) : ∃ input ∈ inputs, f input = .error failure := by
  obtain ⟨before, input, after, rfl, _, found⟩ := (mapM_eq_error_iff f inputs failure).mp failed
  exact ⟨input, by simp, found⟩

end FleetQuery
