import FleetQuery.Proofs.Evaluation.Answers

/-!
# Questions about a group

A question about a group is answered from the machines of that group alone: the others could be
left out of the inventory, or be any others. A group without a name is no restriction. Main
statements: `ask_about_group` and `not_ask_counts_group`.
-/
namespace FleetQuery

namespace Query

variable {query : Query} {name : String}

theorem groupName?_of_group (grouped : query.scope.selection = .group name) :
    query.scope.groupName? = if name = "" then none else some name := by
  simp [Scope.groupName?, grouped]

theorem inScope_of_group (grouped : query.scope.selection = .group name) (named : name ≠ "")
    (machines : List Machine) :
    query.inScope machines = machines.filter fun machine => machine.groupName = some name := by
  rw [inScope, groupName?_of_group grouped, if_neg named]

/-- A group without a name leaves no machine out. -/
theorem inScope_of_nameless (grouped : query.scope.selection = .group "")
    (machines : List Machine) : query.inScope machines = machines := by
  rw [inScope, groupName?_of_group grouped, if_pos rfl]

end Query

/-! ### What a plan sees of the inventory -/

namespace Plan

variable {catalog : Catalog} {query : Query} {defaultColumn : String} {first second : Inventory}

/-- A plan sees no more of the inventory than the machines that its query is about. -/
theorem run_table_congr (same : (source query).run first = (source query).run second)
    {plan : Plan} (planned : table query catalog defaultColumn = .ok plan) :
    plan.run first = plan.run second := by
  unfold table at planned
  split at planned
  next =>
    -- an aggregation over the source
    cases listed : query.aggregations.mapM (aggregateColumn catalog) with
    | error failure => simp [listed, bind, Except.bind] at planned
    | ok columns =>
      cases keyed : (query.groupBy.mapM fun groupBy =>
        headedField catalog groupBy.column.label) with
      | error failure => simp [listed, keyed, bind, Except.bind] at planned
      | ok key =>
        simp only [listed, keyed, bind, Except.bind, pure, Except.pure, Except.ok.injEq] at planned
        subst planned
        simp only [run, same]
  next =>
    -- a projection of the source
    cases listed : (columnLabels query defaultColumn).mapM (headedField catalog) with
    | error failure => simp [listed, bind, Except.bind] at planned
    | ok columns =>
      simp only [listed, bind, Except.bind, pure, Except.pure, Except.ok.injEq] at planned
      subst planned
      simp only [run, same]

theorem run_withOrder_congr {plan : Plan} (same : plan.run first = plan.run second)
    (order : Option OrderBy) :
    (plan.withOrder order).run first = (plan.withOrder order).run second := by
  cases order with
  | none => exact same
  | some order => simp only [withOrder, run, same]

theorem run_withLimit_congr {plan : Plan} (same : plan.run first = plan.run second)
    (limit : Option Nat) :
    (plan.withLimit limit).run first = (plan.withLimit limit).run second := by
  cases limit with
  | none => exact same
  | some rows => simp only [withLimit, run, same]

theorem execute_congr (same : query.inScope first.machines = query.inScope second.machines)
    {plan : Plan} (planned : ofQuery query catalog defaultColumn = .ok plan) :
    plan.execute first = plan.execute second := by
  obtain ⟨base, tabled, rfl⟩ := (map_eq_ok_iff _ _ _).mp planned
  have seen : (source query).run first = (source query).run second := by
    rw [run_source, run_source, Query.selected, Query.selected, Query.counts, Query.counts,
      Query.selected, Query.selected, same]
  have based := run_table_congr seen tabled
  have ordered := run_withOrder_congr based query.orderBy
  have limited := run_withLimit_congr ordered query.limit
  rw [execute, execute, limited]

end Plan

/-! ### Answers about a group -/

namespace Engine

variable {engine : Engine} {question : String} {query : Query}

theorem counts_of_ask {answer : Answer} (parsed : Query.parse engine.catalog question = .ok query)
    (answered : engine.ask question = .ok answer) :
    answer.execution.counts = query.counts engine.inventory.machines := by
  -- a question that is answered shows columns that are known
  have known : query.columns = [] → query.aggregations = [] →
      (engine.catalog.field? engine.config.defaultColumn).isSome := by
    intro bare plain
    rw [Option.isSome_iff_ne_none]
    intro unknown
    rw [ask_of_unknown parsed bare plain unknown] at answered
    cases answered
  obtain ⟨execution, found, _, _, _, _, _, counted⟩ := ask_of_known parsed known
  rw [answered] at found
  cases found
  exact counted

/-- Two inventories with the same machines in scope give the same answer. -/
theorem ask_congr (parsed : Query.parse engine.catalog question = .ok query) {other : Inventory}
    (same : query.inScope other.machines = query.inScope engine.inventory.machines) :
    ({ engine with inventory := other } : Engine).ask question = engine.ask question := by
  have read : Query.parse ({ engine with inventory := other } : Engine).catalog question =
    .ok query := parsed
  rw [ask, ask, read, parsed]
  cases planned : Plan.ofQuery query engine.catalog engine.config.defaultColumn with
  | error failure =>
    have unplanned : Plan.ofQuery query ({ engine with inventory := other } : Engine).catalog
      engine.config.defaultColumn = .error failure := planned
    simp [planned, unplanned, Except.mapError, bind, Except.bind]
  | ok plan =>
    have also : Plan.ofQuery query ({ engine with inventory := other } : Engine).catalog
      engine.config.defaultColumn = .ok plan := planned
    have executed := Plan.execute_congr same planned
    simp [planned, also, executed, Except.mapError, bind, Except.bind]

/-- A question about a group with a name has as many machines in scope as have exactly this group,
and every other machine could be another one without a difference to the answer. A group without a
name is no restriction. The question is answered unless it asks for nothing and the default column
is unknown. -/
theorem ask_about_group (engine : Engine) (question : String) (query : Query) (name : String)
    (parsed : Query.parse engine.catalog question = .ok query)
    (grouped : query.scope.selection = .group name) :
    (∀ answer, engine.ask question = .ok answer → answer.execution.counts.inScope =
      if name = "" then engine.inventory.machines.length
      else (engine.inventory.machines.filter fun machine =>
        machine.groupName = some name).length) ∧
    (name ≠ "" → ∀ other : Inventory,
      (other.machines.filter fun machine => machine.groupName = some name) =
        (engine.inventory.machines.filter fun machine => machine.groupName = some name) →
      ({ engine with inventory := other } : Engine).ask question = engine.ask question) ∧
    ((query.columns = [] → query.aggregations = [] →
      (engine.catalog.field? engine.config.defaultColumn).isSome) →
      ∃ answer, engine.ask question = .ok answer) := by
  refine ⟨?_, ?_, ?_⟩
  · intro answer answered
    rw [counts_of_ask parsed answered, Query.counts]
    split
    next nameless => rw [Query.inScope_of_nameless (nameless ▸ grouped)]
    next named => rw [Query.inScope_of_group grouped named]
  · intro named other members
    apply ask_congr parsed
    rw [Query.inScope_of_group grouped named, Query.inScope_of_group grouped named]
    exact members
  · intro known
    obtain ⟨execution, answered, _⟩ := ask_of_known parsed known
    exact ⟨_, answered⟩

theorem standard_default_known :
    (Catalog.standard.field? Config.standard.defaultColumn).isSome := by
  decide +kernel

theorem sample_not_nameless : Inventory.sample.machines.length ≠
    (Inventory.sample.machines.filter fun machine => machine.groupName = some "").length := by
  decide +kernel

/-- An alias stands for its group: three machines of the sample are servers. -/
theorem ask_sample_about_group : ∃ query answer,
    Query.parse Catalog.standard "Get role from group servers" = .ok query ∧
    query.scope.selection = .group "Data Center Servers" ∧
    (⟨.standard, .sample⟩ : Engine).ask "Get role from group servers" = .ok answer ∧
    answer.execution.counts.inScope = 3 := by
  have read : (Query.parse Catalog.standard "Get role from group servers").map
      (fun query => query.scope.selection) = .ok (.group "Data Center Servers") := by decide +kernel
  have servers : (Inventory.sample.machines.filter fun machine =>
      machine.groupName = some "Data Center Servers").length = 3 := by decide +kernel
  obtain ⟨query, parsed, grouped⟩ := (map_eq_ok_iff _ _ _).mp read
  obtain ⟨counted, _, answers⟩ :=
    ask_about_group ⟨.standard, .sample⟩ _ query _ parsed grouped
  obtain ⟨answer, answered⟩ := answers fun _ _ => standard_default_known
  exact ⟨query, answer, parsed, grouped, answered, (counted answer answered).trans servers⟩

/-- It is not so that a group scope always selects the machines of its group: the name may be empty,
and then every machine is selected. -/
theorem not_ask_counts_group : ¬ ∀ (engine : Engine) (question : String) (query : Query)
    (name : String) (answer : Answer), Query.parse engine.catalog question = .ok query →
    query.scope.selection = .group name → engine.ask question = .ok answer →
    answer.execution.counts.inScope =
      (engine.inventory.machines.filter fun machine => machine.groupName = some name).length := by
  intro selects
  have read : (Query.parse (⟨.standard, .sample⟩ : Engine).catalog
      "Get computer name from group \"\"").map (fun query => query.scope.selection) =
        .ok (.group "") := by decide +kernel
  obtain ⟨query, parsed, grouped⟩ := (map_eq_ok_iff _ _ _).mp read
  obtain ⟨execution, answered, _⟩ := ask_of_known parsed fun _ _ => standard_default_known
  have counted := counts_of_ask parsed answered
  have selected := selects ⟨.standard, .sample⟩ _ query "" _ parsed grouped answered
  rw [counted, Query.counts, Query.inScope_of_nameless grouped] at selected
  -- all of the sample is in scope, and none of it has the empty group
  exact sample_not_nameless selected

end Engine
end FleetQuery
