import FleetQuery.Engine
import FleetQuery.Proofs.Evaluation.Plans

/-!
# Answers of the engine

What the engine answers is what direct evaluation gives, and a question that can be read is answered
unless it asks for nothing and the default column is unknown. Main statements:
`ask_evaluates_directly` and `ask_fails_only_to_read`.
-/
namespace FleetQuery.Engine

section

variable {engine : Engine} {question : String} {query : Query}

theorem ask_of_unread {error : ParseError}
    (unread : Query.parse engine.catalog question = .error error) :
    engine.ask question = .error (.question error) := by
  simp [ask, unread, Except.mapError, bind, Except.bind]

theorem ask_of_known (parsed : Query.parse engine.catalog question = .ok query)
    (known : query.columns = [] → query.aggregations = [] →
      (engine.catalog.field? engine.config.defaultColumn).isSome) :
    ∃ execution, engine.ask question = .ok ⟨question, query, execution⟩ ∧
      query.IsResult engine.catalog engine.config.defaultColumn engine.inventory.machines
        execution := by
  obtain ⟨plan, execution, planned, executed, result⟩ :=
    Plan.execute_ofQuery engine.inventory (Query.resolved_of_parse parsed) known
  refine ⟨execution, ?_, result⟩
  simp [ask, parsed, planned, executed, Except.mapError, bind, Except.bind, pure, Except.pure]

theorem ask_of_unknown (parsed : Query.parse engine.catalog question = .ok query)
    (bare : query.columns = []) (plain : query.aggregations = [])
    (unknown : engine.catalog.field? engine.config.defaultColumn = none) :
    engine.ask question = .error (.unknownColumn ⟨engine.config.defaultColumn⟩) := by
  have unplanned := Plan.ofQuery_eq_error bare plain unknown
  simp [ask, parsed, unplanned, Except.mapError, bind, Except.bind]

end

/-- The answer to a question is the result of direct evaluation: the table of the machines in scope
that pass the filters, ordered and cut, with their counts. Its payload shows this table. -/
theorem ask_evaluates_directly (engine : Engine) (question : String) (query : Query)
    (parsed : Query.parse engine.catalog question = .ok query)
    (known : query.columns = [] → query.aggregations = [] →
      (engine.catalog.field? engine.config.defaultColumn).isSome) :
    ∃ answer table rows,
      engine.ask question = .ok answer ∧ answer.question = question ∧ answer.query = query ∧
      query.tabulate? engine.catalog engine.config.defaultColumn
        (query.selected engine.inventory.machines) = some table ∧
      query.IsOrdered table rows ∧
      answer.execution.table = ⟨table.headers, query.cut rows⟩ ∧
      answer.execution.counts =
        ⟨(query.inScope engine.inventory.machines).length,
         (query.selected engine.inventory.machines).length⟩ ∧
      ∀ attachments,
        (answer.toJson attachments).member? "headers" =
          some (.array (table.headers.map .string)) ∧
        (answer.toJson attachments).member? "rows" =
          some (.array ((query.cut rows).map .array)) ∧
        (answer.toJson attachments).member? "rowCount" =
          some (.number (.integer (query.cut rows).length)) ∧
        (answer.toJson attachments).member? "execution" = some (.object
          [("scoped", .number (.integer (query.inScope engine.inventory.machines).length)),
           ("filtered", .number (.integer (query.selected engine.inventory.machines).length))]) := by
  obtain ⟨execution, answered, table, rows, tabulated, ordered, shown, counted⟩ :=
    ask_of_known parsed known
  refine ⟨⟨question, query, execution⟩, table, rows, answered, rfl, rfl, tabulated, ordered, shown,
    counted, fun attachments => ?_⟩
  simp [Answer.toJson, Json.member?, shown, counted, Counts.toJson, Query.counts, Json.ofTexts,
    Json.ofNat]

/-- The key of a grouped table is named in another case, and its rows are in the order of this
column. -/
theorem ask_sample_evaluates_directly :
    let question := "Get location, count() from all with role contains \"o\" group by location" ++
      " order by LOCATION desc limit 2"
    ∃ query answer table rows,
      Query.parse Catalog.standard question = .ok query ∧
      (⟨.standard, .sample⟩ : Engine).ask question = .ok answer ∧
      query.tabulate? Catalog.standard "Computer Name"
        (query.selected Inventory.sample.machines) = some table ∧
      query.IsOrdered table rows ∧
      Table.IsFirstNamed table.headers "LOCATION" 0 ∧
      Table.SortedBy 0 false table.rows rows ∧
      answer.execution.table = ⟨table.headers, query.cut rows⟩ := by
  intro question
  -- one evaluation gives all that is needed of the query: its order, and the headers of its table
  have read : (Query.parse Catalog.standard question).map (fun query =>
      (query.orderBy.map fun order => (order.column.label, order.ascending),
        (query.tabulate? Catalog.standard "Computer Name"
          (query.selected Inventory.sample.machines)).map Table.headers)) =
      .ok (some ("LOCATION", false), some ["location", "count()"]) := by decide +kernel
  obtain ⟨query, parsed, shape⟩ := (map_eq_ok_iff _ _ _).mp read
  obtain ⟨ordering, heading⟩ := Prod.mk.inj shape
  obtain ⟨order, asked, named⟩ := Option.map_eq_some_iff.mp ordering
  obtain ⟨label, descending⟩ := Prod.mk.inj named
  have known : (Catalog.standard.field? "Computer Name").isSome := by decide +kernel
  obtain ⟨answer, table, rows, answered, _, _, tabulated, ordered, shown, _⟩ :=
    ask_evaluates_directly ⟨.standard, .sample⟩ _ query parsed fun _ _ => known
  have headers : table.headers = ["location", "count()"] := by
    have made : query.tabulate? Catalog.standard "Computer Name"
      (query.selected Inventory.sample.machines) = some table := tabulated
    rw [made] at heading
    exact Option.some.inj heading
  have first : Table.IsFirstNamed table.headers "LOCATION" 0 := by
    rw [headers]
    exact Table.columnIndex?_eq_some_iff.mp (by decide +kernel)
  have sorted : Table.SortedBy 0 false table.rows rows := by
    have each := ordered
    rw [Query.IsOrdered, asked] at each
    simp only [label, descending] at each
    exact each.1 0 first
  exact ⟨query, answer, table, rows, parsed, answered, tabulated, ordered, first, sorted, shown⟩

/-- Every label of a question that can be read is known. So the question is answered, unless it asks
for nothing and the default column is unknown; the engine has no other failure than this one and
those of reading the question, which have a position. -/
theorem ask_fails_only_to_read (engine : Engine) (question : String) :
    (∀ query, Query.parse engine.catalog question = .ok query →
      query.Resolved engine.catalog ∧
      if query.columns = [] ∧ query.aggregations = [] ∧
          engine.catalog.field? engine.config.defaultColumn = none then
        engine.ask question = .error (.unknownColumn ⟨engine.config.defaultColumn⟩)
      else ∃ answer, engine.ask question = .ok answer) ∧
    ∀ failure, engine.ask question = .error failure →
      (failure = .unknownColumn ⟨engine.config.defaultColumn⟩ ∨
        ∃ error, Query.parse engine.catalog question = .error error ∧
          failure = .question error ∧ failure.position? = some error.span.start) ∧
      failure.kind ∉
        [Failure.Kind.plan, .unsupportedAggregate, .inventory, .file, .json] := by
  have read : ∀ query, Query.parse engine.catalog question = .ok query →
      if query.columns = [] ∧ query.aggregations = [] ∧
          engine.catalog.field? engine.config.defaultColumn = none then
        engine.ask question = .error (.unknownColumn ⟨engine.config.defaultColumn⟩)
      else ∃ answer, engine.ask question = .ok answer := by
    intro query parsed
    split
    next missing => exact ask_of_unknown parsed missing.1 missing.2.1 missing.2.2
    next present =>
      have known : query.columns = [] → query.aggregations = [] →
          (engine.catalog.field? engine.config.defaultColumn).isSome := by
        intro bare plain
        rw [Option.isSome_iff_ne_none]
        exact fun unknown => present ⟨bare, plain, unknown⟩
      obtain ⟨execution, answered, _⟩ := ask_of_known parsed known
      exact ⟨_, answered⟩
  refine ⟨fun query parsed => ⟨Query.resolved_of_parse parsed, read query parsed⟩, ?_⟩
  -- a failure comes from reading, or else from the default column, as nothing else can fail
  intro failure failed
  cases parsed : Query.parse engine.catalog question with
  | error error =>
    rw [ask_of_unread parsed] at failed
    cases failed
    exact ⟨.inr ⟨error, rfl, rfl, rfl⟩, by simp [Failure.kind]⟩
  | ok query =>
    have outcome := read query parsed
    split at outcome
    next =>
      rw [outcome] at failed
      cases failed
      exact ⟨.inl rfl, by simp [Failure.kind]⟩
    next =>
      obtain ⟨answer, answered⟩ := outcome
      rw [answered] at failed
      cases failed

end FleetQuery.Engine
