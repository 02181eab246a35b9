import FleetQuery.Proofs.Outcome
import FleetQuery.Proofs.Question.Clauses
import FleetQuery.Proofs.Recasting.Bodies
import FleetQuery.Proofs.Text.FoldedNumbers

/-!
# Readers of windows that read alike

What is read from the right window, its texts folded, is what is read from the left one, its texts
folded and its spans moved; errors are recast in the same way as values.
-/
namespace FleetQuery

/-! ### Outcomes -/

namespace Recasting

variable {recasting : Recasting} {α β γ : Type}

/-- A scope with the warnings about it. -/
def scopeReading (recasting : Recasting) (read : Scope × List Warning) : Scope × List Warning :=
  (recasting.scope read.1, read.2.map recasting.warning)

theorem outcome_map {value : α → α} {result : β → β} {f g : α → β}
    (commutes : ∀ read, result (f read) = g (value read)) (outcome : Except ParseError α) :
    recasting.outcome result (outcome.map f) = (recasting.outcome value outcome).map g := by
  cases outcome with
  | error => rfl
  | ok read => exact congrArg Except.ok (commutes read)

/-- Results that are made from values read alike are alike, if they are made in the same way from the
recast values. -/
theorem outcome_map_alike {still : Recasting} {folded value : α → α} {other result : β → β}
    {f g h : α → β} {read alike : Except ParseError α}
    (agree : still.outcome folded read = recasting.outcome value alike)
    (first : ∀ read, other (f read) = h (folded read))
    (second : ∀ read, result (g read) = h (value read)) :
    still.outcome other (read.map f) = recasting.outcome result (alike.map g) := by
  rw [outcome_map first, outcome_map second, agree]

/-- Outcomes that are alike are both errors or both values. -/
theorem outcome_cases {still : Recasting} {folded value : α → α}
    {read alike : Except ParseError α}
    (agree : still.outcome folded read = recasting.outcome value alike) :
    (∃ first second, read = .error first ∧ alike = .error second ∧
        still.error first = recasting.error second) ∨
      ∃ first second, read = .ok first ∧ alike = .ok second ∧ folded first = value second := by
  cases read with
  | error first =>
    cases alike with
    | error second =>
      rw [outcome, outcome, Except.error.injEq] at agree
      exact .inl ⟨first, second, rfl, rfl, agree⟩
    | ok second => cases agree
  | ok first =>
    cases alike with
    | error second => cases agree
    | ok second =>
      rw [outcome, outcome, Except.ok.injEq] at agree
      exact .inr ⟨first, second, rfl, rfl, agree⟩

theorem outcome_mapM (value : α → α) (f : γ → Except ParseError α) (inputs : List γ) :
    recasting.outcome (List.map value) (inputs.mapM f) =
      inputs.mapM fun input => recasting.outcome value (f input) := by
  induction inputs with
  | nil => rfl
  | cons input rest ih =>
    rw [List.mapM_cons, List.mapM_cons, ← ih]
    cases f input with
    | error => rfl
    | ok => cases rest.mapM f <;> rfl

theorem text_ofList (chars : List Char) : recasting.text (String.ofList chars) =
    String.ofList (chars.map recasting.folding.char) := by
  rw [text, Text.Folding.text, String.toList_ofList]

/-- Labels that are recast to one text name the same field. -/
theorem field?_congr (catalog : Catalog) {first second : String}
    (same : recasting.text first = recasting.text second) :
    catalog.field? first = catalog.field? second := by
  rw [← recasting.folding.field?_text catalog first, ← recasting.folding.field?_text catalog second]
  exact congrArg catalog.field? same

@[simp] theorem still_text : recasting.still.text = recasting.text := rfl

@[simp] theorem still_span (span : Span) : recasting.still.span span = span := rfl

@[simp] theorem still_cause : recasting.still.cause = recasting.cause := by
  funext cause
  cases cause <;> rfl

end Recasting

variable {recasting : Recasting} {left right : Window} (alike : Window.Alike recasting left right)
include alike

/-! ### Errors and columns -/

theorem ParseError.locate_alike {span : Span} (covered : left.Covers span)
    {c d : ParseError.Cause} (same : recasting.cause c = recasting.cause d) :
    recasting.still.error (.locate right c (recasting.span span)) =
      recasting.error (.locate left d span) := by
  simp only [Recasting.error, locate, Recasting.still_cause, Recasting.still_span,
    Recasting.still_text, same, alike.text_textOf covered]

namespace Column

theorem ofSpan_alike {span : Span} (covered : left.Covers span) :
    recasting.still.column (ofSpan right (recasting.span span)) =
      recasting.column (ofSpan left span) := by
  simp only [Recasting.column, ofSpan, Recasting.still_span, Recasting.still_text,
    alike.text_textOf covered]

theorem known_alike (catalog : Catalog) {other column : Column}
    (same : recasting.still.column other = recasting.column column)
    (covered : left.Covers column.span) {c : String → ParseError.Cause}
    (folds : ∀ label, recasting.cause (c label) = c (recasting.text label)) :
    recasting.still.outcome recasting.still.column
        (other.known right catalog (c other.label)) =
      recasting.outcome recasting.column (column.known left catalog (c column.label)) := by
  have parts := same
  simp only [Recasting.column, Recasting.still_span, Recasting.still_text, Column.mk.injEq] at parts
  obtain ⟨labels, spans⟩ := parts
  have causes : recasting.cause (c other.label) = recasting.cause (c column.label) := by
    rw [folds, folds, labels]
  -- both labels name one field or none
  rw [known, known, Recasting.field?_congr catalog labels]
  split
  next => exact congrArg Except.ok same
  next =>
    rw [spans]
    exact congrArg Except.error (ParseError.locate_alike alike covered causes)

end Column

theorem Clause.unsupported_alike (position : Nat) :
    recasting.still.error (unsupported right (position + recasting.shift)) =
      recasting.error (unsupported left position) := by
  have covered : left.Covers (.between position left.stop) :=
    Window.covers_between (Nat.le_refl _)
  have shown : recasting.text (String.ofList
      ((right.slice (position + recasting.shift) right.stop).take 20)) =
        recasting.text (String.ofList ((left.slice position left.stop).take 20)) := by
    rw [Recasting.text_ofList, Recasting.text_ofList, List.map_take, List.map_take, alike.stop,
      alike.slice_map (.inr (Nat.le_refl _))]
  have located := ParseError.locate_alike alike covered
    (c := .unsupportedText (String.ofList
      ((right.slice (position + recasting.shift) right.stop).take 20)))
    (d := .unsupportedText (String.ofList ((left.slice position left.stop).take 20)))
    (congrArg ParseError.Cause.unsupportedText shown)
  rw [recasting.span_between, ← alike.stop] at located
  exact located

/-! ### Items -/

namespace Projection

theorem aggregateCall?_alike {span : Span} (inside : span.stop ≤ left.stop) :
    (aggregateCall? right (recasting.span span)).map recasting.still.call =
      (aggregateCall? left span).map recasting.call := by
  have lowered : Text.lowerChars
      (right.slice (recasting.span span).start (recasting.span span).stop) =
        Text.lowerChars (left.slice span.start span.stop) :=
    alike.slice_congr (f := Text.lowerChars) recasting.folding.lowerChars_map (.inr inside)
  rw [aggregateCall?, aggregateCall?, lowered]
  by_cases closed : (Text.lowerChars (left.slice span.start span.stop)).getLast? = some ')'
  · have positive : 0 < span.stop := by
      rcases Nat.eq_zero_or_pos span.stop with none | some
      · simp [Window.slice, none, Text.lowerChars, Text.lowerFrom] at closed
      · exact some
    rw [if_pos closed, if_pos closed, Option.map_map, Option.map_map]
    refine congrArg (Option.map · _) (funext fun aggregate => ?_)
    have covered : left.Covers
        (.between (span.start + aggregate.name.length + 1) (span.stop - 1)) :=
      Window.covers_between (by omega)
    have inner : right.trimSpan (.between ((recasting.span span).start + aggregate.name.length + 1)
        ((recasting.span span).stop - 1)) = recasting.span
          (left.trimSpan (.between (span.start + aggregate.name.length + 1) (span.stop - 1))) := by
      rw [← alike.trimSpan covered, recasting.span_between, recasting.span_start,
        recasting.span_stop]
      congr 2 <;> omega
    simp only [Function.comp, inner, recasting.span_isEmpty, Recasting.call]
    split
    next => rfl
    next => exact congrArg _ (congrArg some (Column.ofSpan_alike alike covered.trimSpan))
  · rw [if_neg closed, if_neg closed]
    rfl

omit alike in
theorem cause_unknownTarget (aggregate : Aggregate) (label : String) :
    recasting.cause (unknownTarget aggregate label) =
      unknownTarget aggregate (recasting.text label) := by
  rw [unknownTarget, unknownTarget]
  split <;> rfl

omit alike in
/-- The target of a call lies in the window. -/
theorem covers_target {window : Window} {span : Span} (inside : span.stop ≤ window.stop)
    {call : AggregateCall} (found : aggregateCall? window span = some call) {target : Column}
    (targeted : call.target = some target) : window.Covers target.span := by
  rw [aggregateCall?] at found
  split at found
  next =>
    obtain ⟨aggregate, _, rfl⟩ := Option.map_eq_some_iff.mp found
    dsimp only at targeted
    split at targeted
    next => cases targeted
    next =>
      rw [← Option.some.inj targeted]
      exact (Window.covers_between (by omega)).trimSpan
  next => cases found

theorem readItem_alike (catalog : Catalog) {span : Span} (inside : span.stop ≤ left.stop) :
    recasting.still.outcome recasting.still.item
        (readItem catalog right (recasting.span span)) =
      recasting.outcome recasting.item (readItem catalog left span) := by
  -- a call is found in both windows or in none of them
  have calls := aggregateCall?_alike alike inside
  rw [readItem, readItem]
  cases found : aggregateCall? left span with
  | none =>
    rw [found, Option.map_none, Option.map_eq_none_iff] at calls
    have column := Column.ofSpan_alike alike (.inr inside)
    have known := Column.known_alike alike catalog column (.inr inside)
      (c := .unknownColumn) fun label => rfl
    rw [calls]
    exact Recasting.outcome_map_alike known (fun _ => rfl) fun _ => rfl
  | some call =>
    rw [found, Option.map_some, Option.map_eq_some_iff] at calls
    obtain ⟨other, taken, same⟩ := calls
    rw [taken]
    obtain ⟨aggregate, target⟩ := call
    obtain ⟨otherAggregate, otherTarget⟩ := other
    have parts := same
    simp only [Recasting.call, AggregateCall.mk.injEq] at parts
    obtain ⟨rfl, targets⟩ := parts
    cases target with
    | none =>
      rw [Option.map_none, Option.map_eq_none_iff] at targets
      subst targets
      rfl
    | some target =>
      rw [Option.map_some, Option.map_eq_some_iff] at targets
      obtain ⟨otherTarget, rfl, column⟩ := targets
      have known := Column.known_alike alike catalog column (covers_target inside found rfl)
        (c := unknownTarget otherAggregate) (cause_unknownTarget otherAggregate)
      exact Recasting.outcome_map_alike
        (h := fun _ => Item.aggregate (recasting.call ⟨otherAggregate, some target⟩)) known
        (fun _ => congrArg Item.aggregate same) fun _ => rfl

omit alike in
theorem projection_ofItems (items : List Item) :
    recasting.projection (ofItems items) = ofItems (items.map recasting.item) := by
  induction items with
  | nil => rfl
  | cons item rest ih =>
    simp only [Recasting.projection, ofItems, Projection.mk.injEq] at ih
    cases item <;> simp [Recasting.projection, ofItems, Recasting.item, ih]

theorem read_alike (catalog : Catalog) (position : Nat)
    (long : left.start + 3 ≤ left.stop) :
    (read catalog right (position + recasting.shift)).position =
        (read catalog left position).position + recasting.shift ∧
      recasting.still.outcome recasting.still.projection
          (read catalog right (position + recasting.shift)).outcome =
        recasting.outcome recasting.projection (read catalog left position).outcome := by
  rw [read, read, cut_alike alike]
  cases found : cut left position position with
  | none =>
    have covered : left.Covers (.between left.start (left.start + 3)) :=
      Window.covers_between long
    have located := ParseError.locate_alike alike covered (c := .missingFrom) rfl
    rw [recasting.span_between, Nat.add_right_comm, ← alike.start] at located
    have stop := alike.stop
    refine ⟨?_, congrArg Except.error located⟩
    dsimp only [Option.map_none]
    omega
  | some cutting =>
    have covered := covers_of_cut left position position cutting found
    have items : recasting.still.outcome (List.map recasting.still.item)
        (((pieces left cutting.1).map recasting.span).mapM (readItem catalog right)) =
          recasting.outcome (List.map recasting.item)
            ((pieces left cutting.1).mapM (readItem catalog left)) := by
      rw [Recasting.outcome_mapM, Recasting.outcome_mapM]
      exact mapM_map_congr fun span member =>
        readItem_alike alike catalog (stop_le_of_mem_trimmed covered span member)
    refine ⟨rfl, ?_⟩
    dsimp only [Option.map_some]
    rw [pieces, trimmed_alike alike covered]
    exact Recasting.outcome_map_alike items projection_ofItems projection_ofItems

end Projection

/-! ### Scopes -/

namespace Scope

omit alike in
theorem unquote_map (folding : Text.Folding) (name : List Char) :
    unquote (name.map folding.char) = (unquote name).map folding.char := by
  have quote : ∀ c : Option Char, c.map folding.char = some '"' ↔ c = some '"' := by
    intro c
    cases c with
    | none => simp
    | some c => simpa using folding.char_eq_iff c '"' (by decide) (by decide)
  have single : name.map folding.char = ['"'] ↔ name = ['"'] := by
    rw [List.map_eq_singleton_iff]
    constructor
    · rintro ⟨c, rfl, folded⟩
      rw [(folding.char_eq_iff c '"' (by decide) (by decide)).mp folded]
    · rintro rfl
      exact ⟨'"', rfl, folding.char_of_no_letter (by decide) (by decide)⟩
  simp only [unquote, List.length_map, List.head?_map, List.getLast?_map, quote, single]
  split
  next => rw [← List.map_drop, List.map_dropLast]
  next => split <;> rfl

omit alike in
/-- A name resolves to the same group, or to itself. -/
theorem text_resolveGroup (catalog : Catalog) {first second : String}
    (same : recasting.text first = recasting.text second) :
    recasting.text (catalog.resolveGroup first) = recasting.text (catalog.resolveGroup second) := by
  have keys : Catalog.normalize first = Catalog.normalize second := by
    rw [← recasting.folding.normalize_text, ← recasting.folding.normalize_text second]
    exact congrArg Catalog.normalize same
  rw [Catalog.resolveGroup, Catalog.resolveGroup, keys]
  cases catalog.groups.get? (Catalog.normalize second) with
  | none => exact same
  | some group => rfl

theorem ofSpan_alike (catalog : Catalog) {span : Span} (covered : left.Covers span) :
    recasting.still.scopeReading (ofSpan catalog right (recasting.span span)) =
      recasting.scopeReading (ofSpan catalog left span) := by
  have opens : (Keyword.groupScope.matchesAt right (span.start + recasting.shift) &&
      decide (span.start + recasting.shift + Keyword.groupScope.length ≤
        span.stop + recasting.shift)) =
      (Keyword.groupScope.matchesAt left span.start &&
        decide (span.start + Keyword.groupScope.length ≤ span.stop)) := by
    rw [Keyword.matchesAt_alike alike, Nat.add_right_comm]
    simp only [Nat.add_le_add_iff_right]
  rw [ofSpan, ofSpan, recasting.span_start, recasting.span_stop, opens]
  split
  next =>
    have inner : left.Covers (.between (span.start + Keyword.groupScope.length) span.stop) := by
      simp only [Window.Covers, Span.between] at covered ⊢
      omega
    have place := alike.trimSpan inner
    have named := inner.trimSpan
    rw [recasting.span_between, Nat.add_right_comm] at place
    rw [place]
    generalize left.trimSpan (.between (span.start + Keyword.groupScope.length) span.stop) =
      name at named
    have written : (right.slice (recasting.span name).start (recasting.span name).stop).map
        recasting.folding.char = (left.slice name.start name.stop).map recasting.folding.char :=
      alike.slice_map named.bounded
    have names : recasting.text (String.ofList
        (unquote (right.slice (recasting.span name).start (recasting.span name).stop))) =
          recasting.text (String.ofList (unquote (left.slice name.start name.stop))) := by
      rw [Recasting.text_ofList, Recasting.text_ofList, ← unquote_map, ← unquote_map, written]
    simp only [Recasting.scopeReading, Recasting.scope, Recasting.selection, Recasting.still_text,
      text_resolveGroup catalog names]
    rfl
  next =>
    have words := alike.slice_congr (f := fun text => Text.sameIgnoringAsciiCase text "all".toList)
      (fun text => recasting.folding.sameIgnoringAsciiCase_map text _) covered.bounded
    have texts := alike.text_textOf covered
    simp only [Window.textOf, recasting.span_start, recasting.span_stop] at texts
    simp only [words]
    split
    next => rfl
    next =>
      simp only [Recasting.scopeReading, List.map_singleton, Recasting.warning,
        Recasting.warningCause, Recasting.still_text, texts]
      rfl

theorem read_alike (catalog : Catalog) {position : Nat}
    (opened : Projection.endsAt left position = true) :
    (read catalog right (position + recasting.shift)).position =
        (read catalog left position).position + recasting.shift ∧
      recasting.still.outcome recasting.still.scopeReading
          (read catalog right (position + recasting.shift)).outcome =
        recasting.outcome recasting.scopeReading (read catalog left position).outcome := by
  have inside := Keyword.le_stop_of_matchesAt opened
  have stop := alike.stop
  simp only [read, alike.jump, alike.skipAhead, stop, Nat.add_le_add_iff_right,
    Clause.segmentEnd_alike alike, alike.jumpTo]
  split
  next =>
    have covered : left.Covers
        (.between (position + 1) (position + Keyword.scopeOpening.length - 1)) :=
      Window.covers_between (by omega)
    refine ⟨rfl, congrArg Except.error ?_⟩
    have last : position + recasting.shift + Keyword.scopeOpening.length - 1 =
        position + Keyword.scopeOpening.length - 1 + recasting.shift := by
      have long : 0 < Keyword.scopeOpening.length := by decide
      omega
    rw [← ParseError.locate_alike alike covered rfl, recasting.span_between, last,
      Nat.add_right_comm]
  next =>
    have body : left.Covers (.between
        (left.skipAhead (left.jump position Keyword.scopeOpening.length))
        (Clause.segmentEnd left (left.skipAhead
          (left.jump position Keyword.scopeOpening.length)))) :=
      Window.covers_between (Clause.segmentEnd_le left _)
    refine ⟨rfl, congrArg Except.ok ?_⟩
    rw [← recasting.span_between, alike.trimSpan body]
    exact ofSpan_alike alike catalog body.trimSpan

end Scope

/-! ### Clauses -/

namespace Filter

omit alike in
theorem warning?_filter (filter : Filter) :
    warning? (recasting.filter filter) = (warning? filter).map recasting.warning := by
  rw [Recasting.filter, warning?, warning?]
  dsimp only
  split <;> rfl

theorem ofSpan_alike (catalog : Catalog) {span : Span} (inside : span.stop ≤ left.stop) :
    recasting.still.outcome recasting.still.filter (ofSpan catalog right (recasting.span span)) =
      recasting.outcome recasting.filter (ofSpan catalog left span) := by
  rw [ofSpan, ofSpan, predicate?_alike alike inside]
  cases found : predicate? left span with
  | none =>
    have covered : left.Covers span := .inr inside
    refine congrArg Except.error (ParseError.locate_alike alike covered ?_)
    exact congrArg ParseError.Cause.unsupportedPredicate (alike.text_textOf covered)
  | some predicate =>
    obtain ⟨label, value⟩ := covers_predicate inside found
    have labels := alike.text_textOf label
    simp only [Option.map_some, ofPredicate, Recasting.predicate,
      Recasting.field?_congr catalog labels]
    cases catalog.field? (left.textOf predicate.label) with
    | none =>
      refine congrArg Except.error (ParseError.locate_alike alike label ?_)
      exact congrArg ParseError.Cause.unknownFilterColumn labels
    | some field =>
      simp only [Recasting.outcome, Recasting.filter, Recasting.still_span, Recasting.still_text,
        labels, alike.text_textOf value]

theorem ofSegment_alike (catalog : Catalog) {segment : Clause.Segment}
    (covered : left.Covers segment.body) :
    recasting.still.outcome (List.map recasting.still.filter)
        (ofSegment catalog right (recasting.segment segment)) =
      recasting.outcome (List.map recasting.filter) (ofSegment catalog left segment) := by
  rw [ofSegment, ofSegment, Recasting.segment, predicates_alike alike covered,
    Recasting.outcome_mapM, Recasting.outcome_mapM]
  exact mapM_map_congr fun span member =>
    ofSpan_alike alike catalog (stop_le_of_mem_predicates covered member)

end Filter

theorem GroupBy.ofSegment_alike (catalog : Catalog) {segment : Clause.Segment}
    (keyword : left.Covers segment.keyword) (body : left.Covers segment.body) :
    recasting.still.outcome recasting.still.groupBy
        (ofSegment catalog right (recasting.segment segment)) =
      recasting.outcome recasting.groupBy (ofSegment catalog left segment) := by
  simp only [ofSegment, Recasting.segment, recasting.span_isEmpty]
  split
  next => exact congrArg Except.error (ParseError.locate_alike alike keyword rfl)
  next =>
    have known := Column.known_alike alike catalog (Column.ofSpan_alike alike body) body
      (c := .unknownGroupColumn) fun label => rfl
    exact Recasting.outcome_map_alike known
      (h := fun column =>
        ⟨column, recasting.span (.between segment.keyword.start segment.body.stop)⟩)
      (fun column => congrArg _ (recasting.span_between ..).symm) fun column => rfl

namespace OrderBy

theorem column_alike {span : Span} (covered : left.Covers span) :
    recasting.still.column ⟨Text.squeeze (right.textOf (recasting.span span)),
        recasting.span span⟩ =
      recasting.column ⟨Text.squeeze (left.textOf span), span⟩ := by
  have labels : recasting.text (Text.squeeze (right.textOf (recasting.span span))) =
      recasting.text (Text.squeeze (left.textOf span)) := by
    have texts := congrArg Text.squeeze (alike.text_textOf covered)
    rwa [Recasting.text, recasting.folding.squeeze_text, recasting.folding.squeeze_text] at texts
  simp only [Recasting.column, Recasting.still_text, Recasting.still_span, labels]

theorem ofSegment_alike (catalog : Catalog) {segment : Clause.Segment}
    (keyword : left.Covers segment.keyword) (body : left.Covers segment.body) :
    recasting.still.outcome recasting.still.orderBy
        (ofSegment catalog right (recasting.segment segment)) =
      recasting.outcome recasting.orderBy (ofSegment catalog left segment) := by
  have covered := splitDirection_covers body
  simp only [ofSegment, Recasting.segment, splitDirection_alike alike body, recasting.span_isEmpty]
  generalize splitDirection left segment.body = direction at covered
  obtain ⟨span, ascending⟩ := direction
  split
  next => exact congrArg Except.error (ParseError.locate_alike alike keyword rfl)
  next =>
    have known := Column.known_alike alike catalog (column_alike alike covered) covered
      (c := .unknownOrderColumn) fun label => rfl
    exact Recasting.outcome_map_alike known (h := fun column => ⟨column, ascending⟩)
      (fun column => rfl) fun column => rfl

end OrderBy

theorem Limit.ofSegment_alike {segment : Clause.Segment}
    (keyword : left.Covers segment.keyword) (body : left.Covers segment.body) :
    recasting.still.outcome id (ofSegment right (recasting.segment segment)) =
      recasting.outcome id (ofSegment left segment) := by
  have covered := firstWord_covers body
  simp only [ofSegment, Recasting.segment, firstWord_alike alike body, recasting.span_isEmpty]
  split
  next => exact congrArg Except.error (ParseError.locate_alike alike keyword rfl)
  next =>
    have words := alike.slice_congr (f := ofWord) (ofWord_map recasting.folding) covered.bounded
    rw [recasting.span_start, recasting.span_stop, words]
    cases ofWord (left.slice (firstWord left segment.body).start
      (firstWord left segment.body).stop) with
    | ok limit => rfl
    | error cause => exact congrArg Except.error (ParseError.locate_alike alike covered rfl)

end FleetQuery
