import FleetQuery.Proofs.Marks.Filters
import FleetQuery.Proofs.Question.RoundTrip

/-!
# Values between quotes

A value is read as it stands between its quotes if and only if it holds together. A clause that begins
in it, or an `and` between blanks, ends the predicate before the closing quote, and what is left of it
is refused. Main statement: `parse_quoted_iff`.
-/
namespace FleetQuery

/-! ### Where the first predicate ends -/

/-- A segment ends at the latest where a clause begins. -/
theorem Clause.segmentEnd_le_of_boundary {window : Window} {start position : Nat}
    (above : start ≤ position) (inside : position < window.stop)
    (begins : (boundaryAt? window position).isSome = true) :
    segmentEnd window start ≤ position := by
  have some : (firstIn start window.stop fun i => (boundaryAt? window i).isSome).isSome = true :=
    firstIn_isSome begins above inside
  obtain ⟨first, found⟩ := Option.isSome_iff_exists.mp some
  obtain ⟨opened, earlier⟩ := firstIn_holds found
  obtain ⟨clause, here⟩ := Option.isSome_iff_exists.mp opened
  have least : first ≤ position := by
    by_contra later
    have none := earlier position above (Nat.not_le.mp later)
    rw [begins] at none
    cases none
  simpa [segmentEnd, findBoundary?, found, here] using least

namespace Filter

variable {window : Window}

/-- The first piece ends at the latest where the word `and` follows a blank. -/
theorem exists_split_eq_cons (window : Window) (stop pivot position : Nat)
    (inside : position ≤ stop) :
    ∃ ending more, split window stop pivot position = .between pivot ending :: more ∧
      position ≤ ending ∧ ending ≤ stop ∧
      ∀ join, position ≤ join → window.blankAt join = true →
        Keyword.predicateSeparator.matchesAt window (join + 1) = true → join + 4 < stop →
          ending ≤ join := by
  fun_induction split window stop pivot position with
  | case1 pivot position going blank word after here next ih =>
    exact ⟨position, _, rfl, Nat.le_refl _, inside, fun join above _ _ _ => above⟩
  | case2 pivot position going blank word after here ih =>
    have skipped : position + 1 ≤ word := window.le_skipBlanks _ _
    obtain ⟨ending, more, cut, above, below, first⟩ := ih (Window.skipBlanks_le going)
    refine ⟨ending, more, cut, by omega, below, fun join onwards shown joined room => ?_⟩
    by_cases behind : word ≤ join
    · exact first join behind shown joined room
    · -- the word begins visibly, and so it is the one that the blanks lead to
      have letter := Keyword.blankAt_of_head (by decide) rfl joined
      have next : join + 1 = word := by
        by_contra earlier
        have blanks := Window.blankAt_of_lt_skipBlanks (show position + 1 ≤ join + 1 by omega)
          (show join + 1 < window.skipBlanks (position + 1) stop by omega) (by omega)
        rw [letter] at blanks
        cases blanks
      rw [next] at joined
      have fits : after = join + 4 := by simp only [after, ← next]; rfl
      exact absurd ⟨fits ▸ room, joined⟩ here
  | case3 pivot position going visible ih =>
    obtain ⟨ending, more, cut, above, below, first⟩ := ih going
    refine ⟨ending, more, cut, by omega, below, fun join onwards blank joined room => ?_⟩
    have other : position ≠ join := by
      rintro rfl
      exact visible blank
    exact first join (by omega) blank joined room
  | case4 pivot position finished =>
    exact ⟨stop, [], rfl, inside, Nat.le_refl _, fun join above _ _ room => by omega⟩

theorem lt_withoutDots_stop {body : Span} (nonempty : body.start < body.stop)
    (undotted : window.hasAt body.start '.' = false) :
    body.start < (withoutDots window body).stop := by
  rw [withoutDots]
  cases found : lastIn body.start body.stop fun i => !window.hasAt i '.' with
  | none =>
    have dotted := lastIn_fails found body.start (Nat.le_refl _) nonempty
    rw [undotted] at dotted
    cases dotted
  | some last =>
    have bounds := lastIn_bounds found
    simp only [Option.map_some, Option.getD_some, Span.between]
    omega

/-- A body that begins visibly has a first piece, which begins there. -/
theorem exists_predicates_eq_cons {body : Span} (nonempty : body.start < body.stop)
    (inside : body.stop ≤ window.stop) (visible : window.blankAt body.start = false)
    (undotted : window.hasAt body.start '.' = false) :
    ∃ piece more, predicates window body = piece :: more ∧ piece.start = body.start ∧
      piece.stop ≤ body.stop ∧
      ∀ join, body.start ≤ join → window.blankAt join = true →
        Keyword.predicateSeparator.matchesAt window (join + 1) = true →
          join + 4 < (withoutDots window body).stop → piece.stop ≤ join := by
  have dots := withoutDots_stop_le window body
  have longer := lt_withoutDots_stop nonempty undotted
  have start : (withoutDots window body).start = body.start := rfl
  obtain ⟨ending, more, cut, above, below, first⟩ := exists_split_eq_cons window
    (withoutDots window body).stop body.start (body.start + 1) longer
  have stepped : split window (withoutDots window body).stop body.start body.start =
      split window (withoutDots window body).stop body.start (body.start + 1) := by
    rw [split, if_pos longer, visible, if_neg Bool.false_ne_true]
  obtain ⟨shown, begins⟩ := Window.trimSpan_of_visible (Nat.lt_of_succ_le above)
    (below.trans (dots.trans inside)) visible
  have ends := (Window.trimSpan_between_bounds shown).2.2
  refine ⟨window.trimSpan (.between body.start ending),
    (more.map window.trimSpan).filter fun piece => !piece.isEmpty, ?_, begins,
    ends.trans (below.trans dots), fun join onwards blank joined room => ?_⟩
  · simp [predicates, start, stepped, cut, shown]
  · have other : body.start ≠ join := by
      rintro rfl
      rw [visible] at blank
      cases blank
    exact ends.trans (first join (by omega) blank joined room)

/-- A predicate has two quotes. -/
theorem predicate?_eq_none {span : Span} (visible : window.blankAt span.start = false)
    (inside : span.stop ≤ window.stop)
    (single : ∀ i j, span.start ≤ i → i < j → j < span.stop → window.hasAt i '"' = true →
      window.hasAt j '"' = false) : predicate? window span = none := by
  cases found : predicate? window span with
  | none => rfl
  | some predicate =>
    obtain ⟨opening, stands⟩ := predicate?_stands visible inside found
    have room := stands.room
    have ordered := predicate.label.ordered
    have above : span.start ≤ opening := stands.front ▸ ordered.trans stands.behind
    have other := single opening (span.stop - 1) above (by omega) (by omega) stands.opens
    rw [stands.closes] at other
    cases other

end Filter

namespace Written

section

variable {window : Window} {before rest : List Char}

/-! ### Comparisons that hold together -/

theorem Comparison.predicates_eq (comparison : Comparison)
    (holds : HoldsTogether comparison.value)
    (reads : window.Reads before (comparison.chars ++ rest)) :
    Filter.predicates window (.between before.length (before.length + comparison.chars.length)) =
      [.between before.length (before.length + comparison.chars.length)] := by
  have undotted : Filter.withoutDots window
      (.between before.length (before.length + comparison.chars.length)) =
        .between before.length (before.length + comparison.chars.length) := by
    obtain ⟨front, closes⟩ := comparison.exists_last
    rw [closes] at reads ⊢
    exact Filter.withoutDots_eq reads (by decide)
  have spells : window.Spells
      (.between before.length (before.length + comparison.chars.length)) comparison.chars :=
    ⟨before, rest, reads, rfl⟩
  have whole : Filter.split window (before.length + comparison.chars.length) before.length
      before.length = [.between before.length (before.length + comparison.chars.length)] := by
    have past : ¬ before.length + comparison.chars.length <
        before.length + comparison.chars.length := Nat.lt_irrefl _
    rw [comparison.split_eq holds reads (by rw [List.length_append]), List.length_append,
      Filter.split, if_neg past]
  have visible := spells.isEmpty_eq_false comparison.isTrimmed
  rw [Filter.predicates, undotted]
  simp only [Span.start_between, Span.stop_between_add, whole, List.map_cons, List.map_nil,
    spells.trimSpan_eq comparison.isTrimmed, List.filter_cons, visible, Bool.not_false, if_true,
    List.filter_nil]

theorem Comparison.exists_ofSegment (comparison : Comparison) (extra : List (String × String))
    (holds : HoldsTogether comparison.value)
    (reads : window.Reads before (comparison.chars ++ rest)) {segment : Clause.Segment}
    (body : segment.body =
      .between before.length (before.length + comparison.chars.length)) :
    ∃ filter, Filter.ofSegment (Catalog.standard.withGroups extra) window segment = .ok [filter] ∧
      filter.content = comparison.content := by
  obtain ⟨filter, read, shown⟩ := comparison.exists_ofSpan extra ⟨before, rest, reads, rfl⟩
  refine ⟨filter, ?_, shown⟩
  rw [Filter.ofSegment, body, comparison.predicates_eq holds reads, List.mapM_cons, read]
  rfl

/-! ### Comparisons that do not -/

theorem Comparison.unquoted_head (comparison : Comparison) : '"' ∉ comparison.head := by
  have label : '"' ∉ comparison.label.chars := by
    intro member
    exact absurd (comparison.label.isLabelChar _ member) (by decide)
  have phrase : '"' ∉ comparison.operator.phrase.toList := by cases comparison.operator <;> decide
  simp [head, label, phrase]

/-- Up to its last character a comparison has one quote. -/
theorem Comparison.single_quote (comparison : Comparison)
    (reads : window.Reads before comparison.chars) {position : Nat}
    (above : before.length ≤ position)
    (below : position + 1 < before.length + comparison.chars.length)
    (quote : window.hasAt position '"' = true) :
    position = before.length + comparison.head.length := by
  have parts : comparison.chars = (comparison.head ++ '"' :: comparison.value) ++ ['"'] := by
    simp [comparison.chars_eq, quoted]
  rw [parts] at reads below
  rw [List.length_append, List.length_singleton] at below
  obtain ⟨left, d, right, split, place, here⟩ := reads.chunk_getElem? above (by omega)
  rw [place, ← List.length_append, here.hasAt, beq_iff_eq] at quote
  rw [quote] at split
  -- neither side of the quote holds another one, so that the text splits there in one way only
  have same := (List.append_cons_inj_of_notMem comparison.unquoted_head comparison.unquoted).mp split
  rw [place, same.1]

/-- A comparison begins with a letter of its label. -/
theorem Comparison.first_visible (comparison : Comparison)
    (reads : window.Reads before (comparison.chars ++ rest)) :
    window.blankAt before.length = false ∧ window.hasAt before.length '.' = false := by
  obtain ⟨c, others, starts, visible⟩ := Text.exists_cons_of_isTrimmed comparison.label.isTrimmed
  have labelled := comparison.label.isLabelChar c (by rw [starts]; exact List.mem_cons_self)
  have here := comparison.reads_label reads
  rw [starts, List.cons_append] at here
  refine ⟨here.blankAt.trans visible, ?_⟩
  rw [here.hasAt, beq_eq_false_iff_ne]
  rintro rfl
  cases labelled

/-- What stands between two parts of the value is read behind the quote. -/
theorem Comparison.reads_value (comparison : Comparison) {left right : List Char}
    (reads : window.Reads before comparison.chars) (split : comparison.value = left ++ right) :
    window.Reads (before ++ comparison.head ++ '"' :: left) (right ++ ['"']) := by
  have parts : comparison.chars = comparison.head ++ ('"' :: left ++ (right ++ ['"'])) := by
    simp [comparison.chars_eq, Comparison.quoted, split]
  rw [parts] at reads
  exact reads.append.append

/-- A clause that begins in the value ends the segment before the closing quote. -/
theorem Comparison.segmentEnd_lt (comparison : Comparison) {left right : List Char}
    (reads : window.Reads before comparison.chars) (split : comparison.value = left ++ right)
    (interrupts : Clause.Interrupts ('"' :: left) right) :
    Clause.segmentEnd window before.length < before.length + comparison.chars.length := by
  have here := comparison.reads_value reads split
  have begins := (Clause.boundaryAt?_isSome_iff here).mpr
    ((interrupts_quoted_iff _ left right []).mpr interrupts)
  have stop := reads.stop_eq
  have size := here.stop_eq
  simp only [List.length_append, List.length_singleton] at size begins
  have early : Clause.segmentEnd window before.length ≤ _ :=
    Clause.segmentEnd_le_of_boundary (by omega) (by omega) begins
  omega

/-- An `and` between blanks of the value stands where the predicates are cut. -/
theorem Comparison.exists_join (comparison : Comparison) {left right : List Char} {b : Char}
    (reads : window.Reads before comparison.chars) (split : comparison.value = left ++ b :: right)
    (blank : Text.isBlank b = true) (opens : Filter.OpensJoin right) :
    ∃ join, before.length ≤ join ∧ window.blankAt join = true ∧
      Keyword.predicateSeparator.matchesAt window (join + 1) = true ∧
      join + 4 < before.length + comparison.chars.length := by
  have here := comparison.reads_value reads split
  have joined := (Filter.separator_matchesAt_iff here.tail).mpr
    ((opensJoin_quoted_iff right []).mpr opens)
  obtain ⟨word, c, more, rfl, spelled, _⟩ := opens
  have letters : word.length = 3 := by
    rw [← List.length_map (f := Char.toLower), spelled]
    rfl
  have stop := reads.stop_eq
  have size := here.stop_eq
  rw [List.length_append, List.length_singleton] at joined
  refine ⟨_, ?_, here.blankAt.trans blank, joined, ?_⟩
  · simp only [List.length_append]
    omega
  · simp only [List.length_append, List.length_cons, List.length_nil] at size ⊢
    omega

/-- The first piece of a comparison begins where it does, and ends before the closing quote unless the
value holds together. -/
theorem Comparison.exists_first_piece (comparison : Comparison)
    (reads : window.Reads before comparison.chars) :
    ∃ piece more,
      Filter.predicates window (window.trimSpan
        (.between before.length (Clause.segmentEnd window before.length))) = piece :: more ∧
      piece.start = before.length ∧ piece.stop ≤ window.stop ∧
      (¬ HoldsTogether comparison.value →
        piece.stop < before.length + comparison.chars.length) := by
  have whole : window.Reads before (comparison.chars ++ []) := by rwa [List.append_nil]
  obtain ⟨visible, undotted⟩ := comparison.first_visible whole
  have stop := reads.stop_eq
  have positive : before.length < window.stop := by
    rw [stop, comparison.chars_eq, List.length_append, Comparison.quoted, List.length_cons]
    omega
  have longer := Clause.lt_segmentEnd positive visible
  have below := Clause.segmentEnd_le window before.length
  obtain ⟨nonempty, start⟩ := Window.trimSpan_of_visible longer below visible
  have ends := (Window.trimSpan_between_bounds nonempty).2.2
  have marks := Window.marks_trimSpan_between below nonempty
  obtain ⟨piece, more, cut, begins, inside, joins⟩ := Filter.exists_predicates_eq_cons
    marks.nonempty (ends.trans below) (by rwa [start]) (by rwa [start])
  refine ⟨piece, more, cut, begins.trans start, by omega, ?_⟩
  -- a piece with the closing quote leaves no place in the value where it could have ended
  contrapose!
  intro long
  constructor
  · intro left right split interrupts
    have early := comparison.segmentEnd_lt reads split interrupts
    omega
  · intro left b right split blank opens
    obtain ⟨join, above, here, joined, room⟩ := comparison.exists_join reads split blank opens
    have reached : Clause.segmentEnd window before.length =
        before.length + comparison.chars.length := by omega
    obtain ⟨front, closes⟩ := comparison.exists_last
    have kept : (Filter.withoutDots window (window.trimSpan (.between before.length
        (Clause.segmentEnd window before.length)))).stop =
          before.length + comparison.chars.length := by
      rw [reached, whole.trimSpan_self comparison.isTrimmed]
      rw [closes] at whole ⊢
      rw [Filter.withoutDots_eq whole (by decide), Span.stop_between_add]
    have early := joins join (by omega) here joined (by omega)
    omega

/-- A comparison whose value does not hold together is refused. -/
theorem Comparison.ofSegment_error (comparison : Comparison) (catalog : Catalog)
    (reads : window.Reads before comparison.chars) (broken : ¬ HoldsTogether comparison.value)
    {segment : Clause.Segment}
    (body : segment.body = window.trimSpan
      (.between before.length (Clause.segmentEnd window before.length))) :
    ∃ error, Filter.ofSegment catalog window segment = .error error ∧
      error.kind = .unsupportedClause := by
  obtain ⟨piece, more, cut, start, inside, short⟩ := comparison.exists_first_piece reads
  have whole : window.Reads before (comparison.chars ++ []) := by rwa [List.append_nil]
  -- the first piece ends before the closing quote, so that it has one quote and is no predicate
  have unread : Filter.predicate? window piece = none := by
    apply Filter.predicate?_eq_none
    · rw [start]
      exact (comparison.first_visible whole).1
    · exact inside
    · intro i j above later below first
      by_contra second
      have size := short broken
      have one := comparison.single_quote reads (by omega) (by omega) first
      have other := comparison.single_quote reads (by omega) (by omega)
        ((Bool.not_eq_false _).mp second)
      omega
  refine ⟨.locate window (.unsupportedPredicate (window.textOf piece)) piece, ?_, rfl⟩
  rw [Filter.ofSegment, body, cut, List.mapM_cons, Filter.ofSpan, unread]
  rfl

/-! ### The clause of a comparison -/

section

variable (comparison : Comparison) (bare : Query)
  (reads : window.Reads before ("where ".toList ++ comparison.chars))
include reads

theorem where_opens : "where ".toList.map Char.toLower = Clause.whereFilter.keyword.letters ∧
    before.length < window.stop ∧
    Clause.detect? window before.length = some .whereFilter := by
  have opens : "where ".toList.map Char.toLower = Clause.whereFilter.keyword.letters := by decide
  have stop := reads.stop_eq
  have letters : "where ".toList.length = 6 := rfl
  rw [List.length_append, letters] at stop
  exact ⟨opens, by omega, Clause.detect?_eq_some reads opens⟩

/-- A comparison that holds together is the one filter that its clause adds. -/
theorem Comparison.exists_readClauses (extra : List (String × String))
    (holds : HoldsTogether comparison.value) :
    ∃ result position,
      Query.readClauses (Catalog.standard.withGroups extra) window bare [] before.length =
        ⟨.ok result, position⟩ ∧
      result.content =
        { bare.content with filters := bare.content.filters ++ [comparison.content] } := by
  obtain ⟨opens, going, detected⟩ := where_opens comparison reads
  have whole : window.Reads before ("where ".toList ++ (comparison.chars ++ [])) := by
    rwa [List.append_nil]
  obtain ⟨segment, taken, body, next⟩ : ∃ segment,
      Clause.segment? window .whereFilter before.length = some segment ∧
      segment.body = .between (before ++ "where ".toList).length
        ((before ++ "where ".toList).length + comparison.chars.length) ∧
      segment.next = window.skipAhead
        ((before ++ "where ".toList).length + comparison.chars.length) :=
    ⟨_, Clause.segment?_eq_some whole opens (comparison.calm holds _ []) (.inl rfl)
      comparison.isTrimmed, rfl, rfl⟩
  obtain ⟨filter, read, shown⟩ := comparison.exists_ofSegment extra holds whole.append body
  -- the clause adds its filter, and behind it there is nothing left to read
  have added : Query.addClause (Catalog.standard.withGroups extra) window bare .whereFilter
      segment = .ok _ := (map_eq_ok_iff _ _ _).mpr ⟨[filter], read, rfl⟩
  have ended : window.stop ≤ segment.next := by
    rw [next, reads.append.stop_eq]
    exact window.le_skipBlanks _ _
  refine ⟨_, _, (Query.readClauses_of_clause _ window bare _ [] before.length .whereFilter segment
    going detected List.not_mem_nil taken added).trans
      (Query.readClauses_of_end _ window _ _ _ ended), ?_⟩
  simp only [Query.content, List.map_append, List.map_cons, List.map_nil, shown]

/-- A comparison that does not is refused with its clause. -/
theorem Comparison.exists_readClauses_error (catalog : Catalog)
    (broken : ¬ HoldsTogether comparison.value) :
    ∃ error position,
      Query.readClauses catalog window bare [] before.length = ⟨.error error, position⟩ ∧
      error.kind = .unsupportedClause := by
  obtain ⟨opens, going, detected⟩ := where_opens comparison reads
  obtain ⟨segment, taken, body⟩ : ∃ segment,
      Clause.segment? window .whereFilter before.length = some segment ∧
      segment.body = window.trimSpan (.between (before ++ "where ".toList).length
        (Clause.segmentEnd window (before ++ "where ".toList).length)) :=
    ⟨_, Clause.segment?_of_opens reads opens, rfl⟩
  obtain ⟨error, refused, kind⟩ := comparison.ofSegment_error catalog reads.append broken body
  have added : Query.addClause catalog window bare .whereFilter segment = .error error :=
    (map_eq_error_iff _ _ _).mpr refused
  refine ⟨error, segment.next, ?_, kind⟩
  rw [Query.readClauses_eq, if_neg (Nat.not_le.mpr going)]
  simp only [detected, List.not_mem_nil, if_false, taken, added]

end

end

/-! ### Whole questions -/

/-- The question that compares a field with a value between quotes. -/
def comparing (label : Label) (operator : FilterOperator) (value : String) : String :=
  "Get computer name from all where " ++ label.text ++ " " ++ operator.phrase ++ " \"" ++ value ++
    "\""

/-- What it says if the value is taken as it stands. -/
def comparingContent (label : Label) (operator : FilterOperator) (value : String) :
    Query.Content where
  columns := ["computer name"]
  aggregations := []
  scope := .all
  filters := [(label.field, label.text, operator, value)]
  groupBy := none
  orderBy := none
  limit := none

theorem toList_comparison (opening : String) (label : Label) (operator : FilterOperator)
    (value : String) :
    (opening ++ label.text ++ " " ++ operator.phrase ++ " \"" ++ value ++ "\"").toList =
      opening.toList ++ (label.chars ++ (" ".toList ++ (operator.phrase.toList ++
        (" \"".toList ++ (value.toList ++ "\"".toList))))) := by
  simp only [String.toList_append, Label.toList_text, List.append_assoc]

/-- The question is read up to its filter. -/
theorem exists_comparing (extra : List (String × String)) (comparison : Comparison)
    {question : String} (whole : question.toList =
      "Get computer name from all where ".toList ++ comparison.chars) :
    ∃ bare next,
      Query.parse (Catalog.standard.withGroups extra) question =
        (Query.readClauses (Catalog.standard.withGroups extra) (Window.ofText question) bare []
          next.length).outcome.map Query.withShapeWarnings ∧
      (Window.ofText question).Reads next ("where ".toList ++ comparison.chars) ∧
      bare.content = ⟨["computer name"], [], .all, [], none, none, none⟩ := by
  have follows : Clause.Follows (" where ".toList ++ comparison.chars) := by
    refine .inr ⟨.whereFilter, comparison.chars.map Char.toLower, ?_⟩
    rw [List.map_append]
    rfl
  have trimmed : Text.isTrimmed question.toList := by
    obtain ⟨front, closes⟩ := comparison.exists_last
    rw [closes, ← List.append_assoc] at whole
    exact Text.isTrimmed_of_ends (c := 'G') (whole.trans rfl) rfl whole rfl
  have none : ∀ b ∈ ([] : List Char), Text.isBlank b = true := fun _ => List.not_mem_nil.elim
  obtain ⟨begins, reads⟩ := Window.ofChars_of_trimmed none trimmed none
  rw [List.append_nil, List.nil_append] at begins reads
  have shape : question.toList = "Get ".toList ++ ("computer name".toList ++ (" from ".toList ++
      (scopeChars .none ++ (" where ".toList ++ comparison.chars)))) := whole.trans rfl
  have here : (Window.ofText question).Reads [] ("Get ".toList ++ ("computer name".toList ++
      (" from ".toList ++ (scopeChars .none ++ (" where ".toList ++ comparison.chars))))) := by
    rw [Window.Reads, ← shape]
    exact reads
  exact exists_opening (some (.item (.column ⟨"computer name".toList, .computerName, by decide⟩)))
    .none extra begins here follows

/-- A value that holds no quote is read as it stands, as that of the one filter of the question, if
and only if it holds together: no clause begins in it and the word `and` does not stand between
blanks. Otherwise the question has an unsupported clause. -/
theorem parse_quoted_iff (extra : List (String × String)) (label : Label)
    (operator : FilterOperator) (value : String) (nonempty : value ≠ "")
    (unquoted : '"' ∉ value.toList) :
    ((∃ query, Query.parse (Catalog.standard.withGroups extra) (comparing label operator value) =
        .ok query ∧ query.content = comparingContent label operator value) ↔
      HoldsTogether value.toList) ∧
    (¬ HoldsTogether value.toList → ∃ error,
      Query.parse (Catalog.standard.withGroups extra) (comparing label operator value) =
        .error error ∧ error.kind = .unsupportedClause) := by
  let comparison : Comparison :=
    ⟨label, operator, value.toList, by simpa using nonempty, unquoted⟩
  have whole : (comparing label operator value).toList =
      "Get computer name from all where ".toList ++ comparison.chars :=
    toList_comparison _ label operator value
  obtain ⟨bare, next, parsed, later, content⟩ := exists_comparing extra comparison whole
  have read : HoldsTogether value.toList → ∃ query,
      Query.parse (Catalog.standard.withGroups extra) (comparing label operator value) =
        .ok query ∧ query.content = comparingContent label operator value := by
    intro holds
    obtain ⟨result, position, read, shown⟩ := comparison.exists_readClauses bare later extra holds
    refine ⟨result.withShapeWarnings, by rw [parsed, read]; rfl, ?_⟩
    rw [Question.content_withShapeWarnings, shown, content]
    simp [comparingContent, Comparison.content, comparison]
  have refused : ¬ HoldsTogether value.toList → ∃ error,
      Query.parse (Catalog.standard.withGroups extra) (comparing label operator value) =
        .error error ∧ error.kind = .unsupportedClause := by
    intro broken
    obtain ⟨error, position, read, kind⟩ := comparison.exists_readClauses_error bare later
      (Catalog.standard.withGroups extra) broken
    exact ⟨error, by rw [parsed, read]; rfl, kind⟩
  refine ⟨⟨?_, read⟩, refused⟩
  rintro ⟨query, parses, _⟩
  by_contra broken
  obtain ⟨error, fails, _⟩ := refused broken
  rw [parses] at fails
  cases fails

/-- The words of the language stand in a value where they begin no clause and join no predicates. -/
theorem parse_quoted_sample :
    (∃ query,
      Query.parse .standard
        "Get computer name from all where role contains \"it starts with and\"" = .ok query ∧
      query.content = comparingContent ⟨"role".toList, .role, by decide +kernel⟩ .contains
        "it starts with and") ∧
    HoldsTogether "it starts with and".toList := by
  have read : (Query.parse .standard
      "Get computer name from all where role contains \"it starts with and\"").map Query.content =
        .ok (comparingContent ⟨"role".toList, .role, by decide +kernel⟩ .contains
          "it starts with and") := by decide +kernel
  have parsed := (map_eq_ok_iff _ _ _).mp read
  exact ⟨parsed, (parse_quoted_iff [] ⟨"role".toList, .role, by decide +kernel⟩ .contains
    "it starts with and" (by decide) (by decide)).1.mp parsed⟩

/-- A value is not always read as it stands: `and` between two of its words cuts it. -/
theorem not_parse_quoted : ¬ ∀ (extra : List (String × String)) (label : Label)
    (operator : FilterOperator) (value : String), value ≠ "" → '"' ∉ value.toList →
    ∃ query, Query.parse (Catalog.standard.withGroups extra) (comparing label operator value) =
      .ok query ∧ query.content = comparingContent label operator value := by
  intro whole
  obtain ⟨query, parsed, _⟩ := whole [] ⟨"computer name".toList, .computerName, by decide +kernel⟩
    .contains "research and development" (by decide) (by decide)
  have refused : Query.parse .standard
      "Get computer name from all where computer name contains \"research and development\"" =
        .error ⟨.unsupportedPredicate "computer name contains \"research", .between 33 65,
          "computer name contains \"research"⟩ := by decide +kernel
  cases parsed.symm.trans refused

end Written
end FleetQuery
