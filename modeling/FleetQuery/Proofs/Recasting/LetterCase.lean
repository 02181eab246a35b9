import FleetQuery.Execution
import FleetQuery.Proofs.Recasting.Surroundings

/-!
# The case of letters

Questions that differ only in the case of ASCII letters are read alike: the same fields at the same
places, and filters that pass the same machines. Main statement: `parse_ignores_case`.
-/
namespace FleetQuery

/-! ### Queries that mean the same -/

/-- Columns at one place that name one field. -/
structure Column.Same (catalog : Catalog) (left right : Column) : Prop where
  span : left.span = right.span
  field : catalog.field? left.label = catalog.field? right.label

structure AggregateCall.Same (catalog : Catalog) (left right : AggregateCall) : Prop where
  aggregate : left.aggregate = right.aggregate
  target : Option.Rel (Column.Same catalog) left.target right.target

structure Scope.Same (left right : Scope) : Prop where
  kind : left.kindName = right.kindName
  span : left.span = right.span

/-- Filters at one place that pass the same machines. -/
structure Filter.Same (left right : Filter) : Prop where
  field : left.field = right.field
  operator : left.operator = right.operator
  span : left.span = right.span
  machines : ∀ machine, left.matches machine = right.matches machine

structure GroupBy.Same (catalog : Catalog) (left right : GroupBy) : Prop where
  column : Column.Same catalog left.column right.column
  span : left.span = right.span

structure OrderBy.Same (catalog : Catalog) (left right : OrderBy) : Prop where
  column : Column.Same catalog left.column right.column
  direction : left.ascending = right.ascending

/-- Queries with the same parts at the same places. -/
structure Query.Same (catalog : Catalog) (left right : Query) : Prop where
  columns : List.Forall₂ (Column.Same catalog) left.columns right.columns
  aggregations : List.Forall₂ (AggregateCall.Same catalog) left.aggregations right.aggregations
  scope : Scope.Same left.scope right.scope
  filters : List.Forall₂ Filter.Same left.filters right.filters
  groupBy : Option.Rel (GroupBy.Same catalog) left.groupBy right.groupBy
  orderBy : Option.Rel (OrderBy.Same catalog) left.orderBy right.orderBy
  limit : left.limit = right.limit
  warnings : List.Forall₂ (fun first second => first.span = second.span)
    left.warnings right.warnings

/-! ### What a recasting keeps -/

theorem rel_of_map_eq {α β : Type} {f : α → β} {R : α → α → Prop}
    (related : ∀ left right, f left = f right → R left right)
    {left right : Option α} (same : left.map f = right.map f) : Option.Rel R left right := by
  cases left with
  | none =>
    cases right with
    | none => exact .none
    | some => cases same
  | some left =>
    cases right with
    | none => cases same
    | some right => exact .some (related left right (Option.some.inj same))

section

variable {recasting : Recasting}

theorem Scope.kindName_recast (recasting : Recasting) (scope : Scope) :
    (recasting.scope scope).kindName = scope.kindName := by
  obtain ⟨selection, span⟩ := scope
  cases selection <;> rfl

theorem ParseError.Cause.kind_recast (recasting : Recasting) (cause : Cause) :
    (recasting.cause cause).kind = cause.kind := by
  cases cause <;> rfl

theorem Column.same_of_recast (catalog : Catalog) (left right : Column)
    (same : recasting.column left = recasting.column right) : Column.Same catalog left right := by
  obtain ⟨label, span⟩ := Column.mk.inj same
  exact ⟨Recasting.eq_of_span span, Recasting.field?_congr catalog label⟩

theorem Filter.same_of_recast (left right : Filter)
    (same : recasting.filter left = recasting.filter right) : Filter.Same left right := by
  obtain ⟨field, label, operator, value, span⟩ := Filter.mk.inj same
  have numbers : Cell.readNumber left.value = Cell.readNumber right.value := by
    rw [← Cell.readNumber_text recasting.folding left.value,
      ← Cell.readNumber_text recasting.folding right.value]
    exact congrArg Cell.readNumber value
  have texts : Text.lowerChars left.value.toList = Text.lowerChars right.value.toList := by
    have folded := congrArg String.toList value
    simp only [Recasting.text, Text.Folding.text, String.toList_ofList] at folded
    rw [← recasting.folding.lowerChars_map, folded, recasting.folding.lowerChars_map]
  -- a machine is compared with the number of the value or with its text in small letters
  refine ⟨field, operator, Recasting.eq_of_span span, fun machine => ?_⟩
  simp only [Filter.matches, Filter.holdsOf, field, operator, numbers, texts]

theorem Query.same_of_recast (catalog : Catalog) (left right : Query)
    (same : recasting.query left = recasting.query right) : Query.Same catalog left right := by
  obtain ⟨columns, aggregations, scope, filters, groupBy, orderBy, limit, warnings⟩ :=
    Query.mk.inj same
  constructor
  · exact forall₂_of_map_eq (Column.same_of_recast catalog) columns
  · refine forall₂_of_map_eq (fun left right same => ?_) aggregations
    obtain ⟨aggregate, target⟩ := AggregateCall.mk.inj same
    exact ⟨aggregate, rel_of_map_eq (Column.same_of_recast catalog) target⟩
  · refine ⟨?_, Recasting.eq_of_span (Scope.mk.inj scope).2⟩
    rw [← Scope.kindName_recast recasting, scope, Scope.kindName_recast]
  · exact forall₂_of_map_eq Filter.same_of_recast filters
  · refine rel_of_map_eq (fun left right same => ?_) groupBy
    obtain ⟨column, span⟩ := GroupBy.mk.inj same
    exact ⟨Column.same_of_recast catalog _ _ column, Recasting.eq_of_span span⟩
  · refine rel_of_map_eq (fun left right same => ?_) orderBy
    obtain ⟨column, direction⟩ := OrderBy.mk.inj same
    exact ⟨Column.same_of_recast catalog _ _ column, direction⟩
  · exact limit
  · refine forall₂_of_map_eq (fun left right same => ?_) warnings
    exact Recasting.eq_of_span (Warning.mk.inj same).2

theorem ParseError.same_of_recast (left right : ParseError)
    (same : recasting.error left = recasting.error right) :
    left.kind = right.kind ∧ left.span = right.span := by
  obtain ⟨cause, span, text⟩ := ParseError.mk.inj same
  refine ⟨?_, Recasting.eq_of_span span⟩
  rw [kind, kind, ← Cause.kind_recast recasting, cause, Cause.kind_recast]

end

/-! ### Questions in different cases -/

namespace Window

/-- Blanks are blanks in either case, so windows on such texts have the same range. -/
theorem alike_of_case {first second : String}
    (same : first.toList.map Char.toLower = second.toList.map Char.toLower) :
    Alike .ignoringCase (ofText first) (ofText second) := by
  have leading : ∀ chars : List Char, ((chars.map Char.toLower).takeWhile Text.isBlank).length =
      (chars.takeWhile Text.isBlank).length := by
    intro chars
    have blanks : Text.isBlank ∘ Char.toLower = Text.isBlank := funext Text.isBlank_toLower
    rw [List.takeWhile_map, blanks, List.length_map]
  have size := congrArg List.length same
  rw [List.length_map, List.length_map] at size
  have before := congrArg (fun chars => (chars.takeWhile Text.isBlank).length) same
  have after := congrArg (fun chars => (chars.reverse.takeWhile Text.isBlank).length) same
  simp only [leading, ← List.map_reverse] at before after
  constructor
  · exact before.symm
  · simp only [ofText, ofChars, before, after, size]
    rfl
  · intro i inside
    have here := congrArg (·[i]?) same
    simp only [List.getElem?_map] at here
    simp only [ofText, ofChars, List.getElem?_toArray]
    exact here.symm
  · intro i early
    cases early

end Window

namespace Query

/-- A question without anything visible fails at its end. -/
theorem parse_of_blank {question : String} (blank : ∀ c ∈ question.toList, Text.isBlank c = true)
    (catalog : Catalog) : ∃ error, parse catalog question = .error error ∧
      error.kind = .malformedQuery ∧
      error.span = .between question.toList.length (question.toList.length + 1) := by
  have whole : question.toList.takeWhile Text.isBlank = question.toList :=
    List.takeWhile_eq_self_iff.mpr blank
  have start : (Window.ofText question).start = question.toList.length := by
    simp only [Window.ofText, Window.ofChars, whole]
  have stop : (Window.ofText question).stop = question.toList.length := by
    simp only [Window.ofText, Window.ofChars, whole]
    omega
  have ahead : (Window.ofText question).skipAhead (Window.ofText question).start =
      question.toList.length := by
    rw [Window.skipAhead, Window.skipBlanks_of_le (by omega), start]
  have nothing : ¬ Keyword.get.matchesAt (Window.ofText question) question.toList.length = true := by
    intro begins
    have inside := Keyword.le_stop_of_matchesAt begins
    have letters : Keyword.get.length = 4 := rfl
    omega
  refine ⟨missingGet (Window.ofText question) question.toList.length, ?_, rfl, ?_⟩
  · simp only [parse, read, ahead, if_neg nothing]
  · have none : firstIn question.toList.length question.toList.length
        (Window.ofText question).blankAt = none :=
      firstIn_eq_none fun i above below => absurd above (by omega)
    simp only [missingGet, ParseError.locate, stop, none, Option.getD_none]
    congr 1
    omega

/-- Questions that agree up to the case of ASCII letters are both read, with the same parts at the
same places and filters that pass the same machines, or fail in the same way at the same place. -/
theorem parse_ignores_case (catalog : Catalog) (first second : String)
    (same : first.toList.map Char.toLower = second.toList.map Char.toLower) :
    match parse catalog first, parse catalog second with
    | .ok left, .ok right => Same catalog left right
    | .error left, .error right => left.kind = right.kind ∧ left.span = right.span
    | _, _ => False := by
  by_cases visible : ∃ c ∈ first.toList, Text.isBlank c = false
  · have read := read_alike (Window.alike_of_case same) catalog
      (Window.skipAhead_start_lt visible)
    rcases Recasting.outcome_cases read with
      ⟨right, left, failed, fails, failure⟩ | ⟨right, left, reads, read, query⟩
    · rw [parse, parse, failed, fails]
      exact ParseError.same_of_recast left right failure.symm
    · rw [parse, parse, reads, read]
      exact same_of_recast catalog left right query.symm
  -- without anything visible both questions end before they begin
  · have blank : ∀ c ∈ first.toList, Text.isBlank c = true := by
      intro c member
      by_contra shown
      exact visible ⟨c, member, by simpa using shown⟩
    have other : ∀ c ∈ second.toList, Text.isBlank c = true := by
      intro c member
      have lowered : c.toLower ∈ first.toList.map Char.toLower := by
        rw [same]
        exact List.mem_map_of_mem member
      obtain ⟨d, listed, equal⟩ := List.mem_map.mp lowered
      rw [← Text.isBlank_toLower, ← equal, Text.isBlank_toLower]
      exact blank d listed
    have size := congrArg List.length same
    rw [List.length_map, List.length_map] at size
    obtain ⟨left, failed, kind, place⟩ := parse_of_blank blank catalog
    obtain ⟨right, fails, otherKind, otherPlace⟩ := parse_of_blank other catalog
    rw [failed, fails]
    exact ⟨kind.trans otherKind.symm, by rw [place, otherPlace, size]⟩

/-- Keywords, labels, functions and values may all change their case. -/
theorem parse_sample_ignores_case : ∃ left right,
    parse Catalog.standard "Get avg(Memory GB) from all with role equals \"Web\" order by ROLE desc" =
      .ok left ∧
    parse Catalog.standard "GET AVG(memory gb) FROM ALL WITH role EQUALS \"WEB\" ORDER BY role DESC" =
      .ok right ∧
    Same Catalog.standard left right := by
  have reads : (parse Catalog.standard
      "Get avg(Memory GB) from all with role equals \"Web\" order by ROLE desc").isOk := by
    decide +kernel
  obtain ⟨left, read⟩ := exists_eq_ok_of_isOk reads
  have same := parse_ignores_case Catalog.standard
    "Get avg(Memory GB) from all with role equals \"Web\" order by ROLE desc"
    "GET AVG(memory gb) FROM ALL WITH role EQUALS \"WEB\" ORDER BY role DESC" (by decide +kernel)
  rw [read] at same
  cases upper : parse Catalog.standard
      "GET AVG(memory gb) FROM ALL WITH role EQUALS \"WEB\" ORDER BY role DESC" with
  | error error => rw [upper] at same; cases same
  | ok right =>
    rw [upper] at same
    exact ⟨left, right, read, rfl, same⟩

end Query
end FleetQuery
