import FleetQuery.Proofs.Bounds.Readers
import FleetQuery.Proofs.Recasting.Bodies

/-!
# Clauses read with checks

The readers of filters, grouping, order and limit on top of the scanners that check their bounds. The
body of a clause ends in the window, so every character that they look at is one of the text. Main
statements: `readFilters_eq`, `readGroupBy_eq`, `readOrderBy_eq` and `readLimit_eq`.
-/
namespace FleetQuery.Guarded

variable {window : Window} {position : Nat}

/-- The body of a clause that is read inside the window ends in the window. -/
theorem segment_body_le {clause : Clause} {segment : Clause.Segment}
    (taken : Clause.segment? window clause position = some segment) :
    segment.body.stop ≤ window.stop := by
  simp only [Clause.segment?, Option.ite_none_right_eq_some, Option.some.injEq] at taken
  obtain ⟨_, rfl⟩ := taken
  have start : window.jump position clause.keyword.length ≤ window.stop := Nat.min_le_right ..
  have ends := Clause.segmentEnd_le window (window.jump position clause.keyword.length)
  exact Nat.le_trans (Window.trimSpan_stop_le _) (Nat.max_le.mpr ⟨start, ends⟩)

/-! ### Filters -/

/-- The body without the dots that end it. -/
def withoutDots (window : Window) (body : Span) : Option Span := do
  let last ← lastIn body.start body.stop fun i => (hasAt window i '.').map (!·)
  return .between body.start ((last.map (· + 1)).getD body.start)

theorem withoutDots_eq {body : Span} (inside : body.stop ≤ window.stop) :
    withoutDots window body = some (Filter.withoutDots window body) := by
  have within := window.stop_le
  have answers : ∀ i, body.start ≤ i → i < body.stop →
      (hasAt window i '.').map (!·) = some (!window.hasAt i '.') := fun i _ below => by
    rw [hasAt_eq (by omega), Option.map_some]
  rw [withoutDots, lastIn_eq answers]
  rfl

/-- Where the next predicate begins if an `and` stands at `word` that ends the one before. -/
def afterJoint? (window : Window) (stop word : Nat) : Option (Option Nat) := do
  let after := word + Keyword.predicateSeparator.length
  if after < stop then
    if ← matchesAt .predicateSeparator window word then return some (← skipBlanks window after stop)
    else return none
  else return none

theorem afterJoint?_eq {stop : Nat} (inside : stop ≤ window.stop) (word : Nat) :
    afterJoint? window stop word =
      some (if word + Keyword.predicateSeparator.length < stop ∧
          Keyword.predicateSeparator.matchesAt window word then
        some (window.skipBlanks (word + Keyword.predicateSeparator.length) stop)
      else none) := by
  have within := Nat.le_trans inside window.stop_le
  by_cases short : word + Keyword.predicateSeparator.length < stop <;>
    by_cases joined : Keyword.predicateSeparator.matchesAt window word <;>
      simp [afterJoint?, matchesAt_eq, skipBlanks_eq within, short, joined]

/-- Cuts the text from `position` to `stop` at every `and` between blanks. -/
def split (window : Window) (stop pivot position : Nat) : Option (List Span) :=
  if position < stop then do
    if ← blankAt window position then
      let word ← skipBlanks window position stop
      match ← afterJoint? window stop word with
      | some next =>
        if position < next then
          return .between pivot position :: (← split window stop next next)
        else none
      | none => if position < word then split window stop pivot word else none
    else split window stop pivot (position + 1)
  else some [.between pivot stop]
termination_by stop - position

theorem skipBlanks_of_blank {stop : Nat} (blank : window.blankAt position) (below : position < stop) :
    window.skipBlanks position stop = window.skipBlanks (position + 1) stop := by
  have left : stop - position = (stop - (position + 1)) + 1 := by omega
  simp only [Window.skipBlanks, FleetQuery.firstIn, left, FleetQuery.searchUp, blank,
    Bool.not_true, Bool.false_eq_true, if_false, Nat.max_eq_right below,
    Nat.max_eq_right (Nat.le_of_lt below)]

theorem split_eq {stop : Nat} (inside : stop ≤ window.stop) (pivot position : Nat) :
    split window stop pivot position = some (Filter.split window stop pivot position) := by
  have within := Nat.le_trans inside window.stop_le
  -- the unchecked scanner does not look at the first blank a second time
  have word_eq {position : Nat} (blank : window.blankAt position) (below : position < stop) :
      skipBlanks window position stop = some (window.skipBlanks (position + 1) stop) := by
    rw [skipBlanks_eq within, skipBlanks_of_blank blank below]
  fun_induction Filter.split window stop pivot position with
  | case1 pivot position going blank word after joint next ih =>
    have forward : position < word := window.le_skipBlanks (position + 1) stop
    have further : after ≤ next := window.le_skipBlanks after stop
    have reached : position < next := by omega
    have separated : afterJoint? window stop word = some (some next) := by
      rw [afterJoint?_eq inside, if_pos joint]
    rw [split, if_pos going, blankAt_eq (by omega), blank, word_eq blank going]
    change (afterJoint? window stop word).bind _ = _
    simp [separated, reached, ih]
  | case2 pivot position going blank word after plain ih =>
    have forward : position < word := window.le_skipBlanks (position + 1) stop
    have whole : afterJoint? window stop word = some none := by
      rw [afterJoint?_eq inside, if_neg plain]
    rw [split, if_pos going, blankAt_eq (by omega), blank, word_eq blank going]
    change (afterJoint? window stop word).bind _ = _
    simp only [whole, Option.bind_some]
    rw [if_pos forward, ih]
  | case3 pivot position going visible ih =>
    rw [split, if_pos going, blankAt_eq (by omega)]
    simp [visible, ih]
  | case4 pivot position finished => rw [split, if_neg finished]

def predicates (window : Window) (body : Span) : Option (List Span) := do
  let body ← withoutDots window body
  trimmed window (← split window body.stop body.start body.start)

theorem predicates_eq {body : Span} (inside : body.stop ≤ window.stop) :
    predicates window body = some (Filter.predicates window body) := by
  have dots := Nat.le_trans (Filter.withoutDots_stop_le window body) inside
  simp [predicates, withoutDots_eq inside, split_eq dots, trimmed_eq, Filter.predicates]

/-- The text between a quote at `opening` and one right before `stop`, if there is any and no quote
in it. -/
def quotedValue? (window : Window) (opening stop : Nat) : Option (Option Span) :=
  if stop < opening + 3 then some none
  else do
    if ← hasAt window opening '"' then
      if ← hasAt window (stop - 1) '"' then
        let inner ← slice window (opening + 1) (stop - 1)
        if '"' ∈ inner then return none else return some (.between (opening + 1) (stop - 1))
      else return none
    else return none

theorem quotedValue?_eq {opening stop : Nat} (inside : stop ≤ window.stop) :
    quotedValue? window opening stop = some (Filter.quotedValue? window opening stop) := by
  have within := window.stop_le
  unfold quotedValue? Filter.quotedValue?
  split
  next short => simp [Nat.not_le.mpr short]
  next long =>
    rw [Nat.not_lt] at long
    -- there is room for both quotes and a character between them
    have inner : slice window (opening + 1) (stop - 1) =
        some (window.slice (opening + 1) (stop - 1)) := by rw [slice, if_pos (by omega)]
    rw [hasAt_eq (by omega), hasAt_eq (by omega), inner]
    cases window.hasAt opening '"' <;> cases window.hasAt (stop - 1) '"' <;>
      by_cases quote : '"' ∈ window.slice (opening + 1) (stop - 1) <;> simp [long, quote]

/-- The predicate whose label ends at `labelEnd` and whose operator stands at `start`. -/
def predicateAt? (window : Window) (span : Span) (labelEnd start : Nat)
    (operator : FilterOperator) : Option (Option Filter.Predicate) := do
  if ← matchesAt operator.keyword window start then
    let stop := start + operator.keyword.length
    if stop < span.stop then
      if ← blankAt window stop then
        match ← quotedValue? window (← skipBlanks window stop span.stop) span.stop with
        | some value =>
          let label ← trimSpan window (.between span.start labelEnd)
          return some ⟨label, operator, value⟩
        | none => return none
      else return none
    else return none
  else return none

/-- The predicate that a span spells: the shortest label comes first, and there is none behind a
character that is not for labels. -/
def predicate? (window : Window) (span : Span) : List Nat → Option (Option Filter.Predicate)
  | [] => some none
  | labelEnd :: rest => do
    let c ← window.chars[labelEnd - 1]?
    if Filter.isLabelChar c then
      if ← blankAt window labelEnd then
        let start ← skipBlanks window labelEnd span.stop
        match ← FilterOperator.bySpecificity.findSomeM?
          (predicateAt? window span labelEnd start) with
        | some predicate => return some predicate
        | none => predicate? window span rest
      else predicate? window span rest
    else return none

section

variable {span : Span} {labelEnd : Nat}

theorem predicateAt?_eq (inside : span.stop ≤ window.stop) (blank : window.blankAt labelEnd)
    (operator : FilterOperator) :
    predicateAt? window span labelEnd (window.skipBlanks labelEnd span.stop) operator =
      some (Filter.predicateAt? window span labelEnd operator) := by
  have within := Nat.le_trans inside window.stop_le
  simp only [predicateAt?, Filter.predicateAt?, matchesAt_eq, blank, Option.bind_eq_bind,
    Option.bind_some, true_and]
  generalize window.skipBlanks labelEnd span.stop = start
  cases stands : operator.keyword.matchesAt window start with
  | false => simp
  | true =>
    by_cases below : start + operator.keyword.length < span.stop
    · -- only a character inside the predicate is asked for
      rw [blankAt_eq (by omega)]
      cases behind : window.blankAt (start + operator.keyword.length) with
      | false => simp
      | true =>
        simp only [below, skipBlanks_eq within, quotedValue?_eq inside, trimSpan_eq,
          Option.bind_some, if_true, and_self]
        cases Filter.quotedValue? window _ span.stop <;> rfl
    · simp [below]

theorem predicate?_eq (inside : span.stop ≤ window.stop) {positions : List Nat}
    (listed : ∀ labelEnd ∈ positions, labelEnd < span.stop) :
    predicate? window span positions =
      some ((positions.takeWhile fun labelEnd => match window.chars[labelEnd - 1]? with
        | some c => Filter.isLabelChar c
        | none => false).findSome? fun labelEnd =>
          FilterOperator.bySpecificity.findSome? (Filter.predicateAt? window span labelEnd)) := by
  have within := Nat.le_trans inside window.stop_le
  -- both stop at the first character that is not for labels
  induction positions with
  | nil => rfl
  | cons labelEnd rest ih =>
    obtain ⟨here, later⟩ := List.forall_mem_cons.mp listed
    have before : labelEnd - 1 < window.chars.size := by omega
    simp only [predicate?, Array.getElem?_eq_getElem before, List.takeWhile_cons,
      Option.bind_eq_bind, Option.bind_some]
    cases Filter.isLabelChar window.chars[labelEnd - 1] with
    | false => rfl
    | true =>
      rw [blankAt_eq (by omega)]
      cases blank : window.blankAt labelEnd with
      | false =>
        -- no operator stands behind a label that goes on
        have nothing : FilterOperator.bySpecificity.findSome?
            (Filter.predicateAt? window span labelEnd) = none := by
          simp [Filter.predicateAt?, blank]
        simp [nothing, ih later]
      | true =>
        have tried : FilterOperator.bySpecificity.findSomeM?
            (predicateAt? window span labelEnd (window.skipBlanks labelEnd span.stop)) =
              some (FilterOperator.bySpecificity.findSome?
                (Filter.predicateAt? window span labelEnd)) := by
          rw [funext (predicateAt?_eq inside blank)]
          exact List.findSomeM?_pure
        simp only [skipBlanks_eq within, tried, ih later, List.findSome?_cons, Option.bind_some,
          if_true]
        cases FilterOperator.bySpecificity.findSome? (Filter.predicateAt? window span labelEnd) <;>
          rfl

end

def filterOfPredicate (catalog : Catalog) (window : Window) (span : Span)
    (predicate : Filter.Predicate) : Option (Except ParseError Filter) := do
  let label ← textOf window predicate.label
  match catalog.field? label with
  | some field =>
    let value ← textOf window predicate.value
    return .ok ⟨field, label, predicate.operator, value, span⟩
  | none => return .error (← locate window (.unknownFilterColumn label) predicate.label)

theorem filterOfPredicate_eq (catalog : Catalog) (window : Window) (span : Span)
    (predicate : Filter.Predicate) : filterOfPredicate catalog window span predicate =
      some (Filter.ofPredicate catalog window span predicate) := by
  simp only [filterOfPredicate, Filter.ofPredicate, textOf_eq, locate_eq, Option.bind_eq_bind,
    Option.bind_some]
  cases catalog.field? (window.textOf predicate.label) <;> rfl

def filterOfSpan (catalog : Catalog) (window : Window) (span : Span) :
    Option (Except ParseError Filter) := do
  match ← predicate? window span (List.range' (span.start + 1) (span.length - 1)) with
  | some predicate => filterOfPredicate catalog window span predicate
  | none =>
    let text ← textOf window span
    return .error (← locate window (.unsupportedPredicate text) span)

theorem filterOfSpan_eq (catalog : Catalog) {span : Span} (inside : span.stop ≤ window.stop) :
    filterOfSpan catalog window span = some (Filter.ofSpan catalog window span) := by
  have listed : ∀ labelEnd ∈ List.range' (span.start + 1) (span.length - 1),
      labelEnd < span.stop := by
    intro labelEnd member
    rw [List.mem_range'_1, Span.length] at member
    omega
  have found : predicate? window span (List.range' (span.start + 1) (span.length - 1)) =
      some (Filter.predicate? window span) := predicate?_eq inside listed
  simp only [filterOfSpan, Filter.ofSpan, found, textOf_eq, locate_eq, filterOfPredicate_eq,
    Option.bind_eq_bind, Option.bind_some]
  cases Filter.predicate? window span <;> rfl

def filtersOfSegment (catalog : Catalog) (window : Window) (segment : Clause.Segment) :
    Option (Except ParseError (List Filter)) := do
  readAll (filterOfSpan catalog window) (← predicates window segment.body)

def readFilters (catalog : Catalog) (window : Window) (position : Nat) :
    Option (Reading (List Filter)) := do
  let clause := if ← matchesAt Clause.withFilter.keyword window position then .withFilter
    else .whereFilter
  take window clause position (filtersOfSegment catalog window)

theorem filtersOfSegment_eq (catalog : Catalog) {segment : Clause.Segment}
    (inside : segment.body.stop ≤ window.stop) :
    filtersOfSegment catalog window segment = some (Filter.ofSegment catalog window segment) := by
  rw [filtersOfSegment, predicates_eq inside]
  exact readAll_eq fun span member =>
    filterOfSpan_eq catalog (Filter.stop_le_of_mem_predicates (.inr inside) member)

theorem readFilters_eq (catalog : Catalog) (inside : position ≤ window.stop) :
    readFilters catalog window position = some (Filter.read catalog window position) := by
  rw [readFilters, matchesAt_eq, Option.bind_eq_bind, Option.bind_some]
  exact take_eq inside fun segment taken => filtersOfSegment_eq catalog (segment_body_le taken)

/-! ### Grouping, order and limit -/

def groupByOfSegment (catalog : Catalog) (window : Window) (segment : Clause.Segment) :
    Option (Except ParseError GroupBy) := do
  if segment.body.isEmpty then
    return .error (← locate window .missingGroupColumn segment.keyword)
  else
    let column ← columnOfSpan window segment.body
    let found ← known column window catalog (.unknownGroupColumn column.label)
    return found.map fun column => ⟨column, .between segment.keyword.start segment.body.stop⟩

def readGroupBy (catalog : Catalog) (window : Window) (position : Nat) : Option (Reading GroupBy) :=
  take window .groupBy position (groupByOfSegment catalog window)

theorem groupByOfSegment_eq (catalog : Catalog) (window : Window) (segment : Clause.Segment) :
    groupByOfSegment catalog window segment = some (GroupBy.ofSegment catalog window segment) := by
  simp only [groupByOfSegment, GroupBy.ofSegment, locate_eq, columnOfSpan_eq, known_eq,
    Option.bind_eq_bind, Option.bind_some]
  split <;> rfl

theorem readGroupBy_eq (catalog : Catalog) (inside : position ≤ window.stop) :
    readGroupBy catalog window position = some (GroupBy.read catalog window position) :=
  take_eq inside fun segment _ => groupByOfSegment_eq catalog window segment

/-- Where the last word of a span begins. -/
def lastWord (window : Window) (span : Span) : Option Nat := do
  let last ← lastIn span.start span.stop (blankAt window)
  return (last.map (· + 1)).getD span.start

/-- Whether the keyword is exactly the text from `start` to `stop`. -/
def isWord (window : Window) (keyword : Keyword) (start stop : Nat) : Option Bool :=
  if start < stop then do
    if ← matchesAt keyword window start then return start + keyword.length == stop
    else return false
  else some false

def splitDirection (window : Window) (body : Span) : Option (Span × Bool) := do
  let last ← lastWord window body
  if ← isWord window .descending last body.stop then
    return (← trimSpan window (.between body.start last), false)
  else if ← isWord window .ascending last body.stop then
    return (← trimSpan window (.between body.start last), true)
  else return (← trimSpan window body, true)

theorem isWord_eq (window : Window) (keyword : Keyword) (start stop : Nat) :
    isWord window keyword start stop = some (OrderBy.isWord window keyword start stop) := by
  unfold isWord OrderBy.isWord
  by_cases below : start < stop <;> cases stands : keyword.matchesAt window start <;>
    simp [matchesAt_eq, below, stands]

theorem splitDirection_eq {body : Span} (inside : body.stop ≤ window.stop) :
    splitDirection window body = some (OrderBy.splitDirection window body) := by
  have within := Nat.le_trans inside window.stop_le
  have last : lastWord window body = some (OrderBy.lastWord window body) := by
    rw [lastWord, lastIn_eq (blankAt_below within)]
    rfl
  simp only [splitDirection, OrderBy.splitDirection, last, isWord_eq, trimSpan_eq,
    Option.bind_eq_bind, Option.bind_some]
  split
  next => rfl
  next => split <;> rfl

def orderByOfSegment (catalog : Catalog) (window : Window) (segment : Clause.Segment) :
    Option (Except ParseError OrderBy) := do
  let (span, ascending) ← splitDirection window segment.body
  if span.isEmpty then return .error (← locate window .missingOrderColumn segment.keyword)
  else
    let column : Column := ⟨Text.squeeze (← textOf window span), span⟩
    let found ← known column window catalog (.unknownOrderColumn column.label)
    return found.map fun column => ⟨column, ascending⟩

def readOrderBy (catalog : Catalog) (window : Window) (position : Nat) : Option (Reading OrderBy) :=
  take window .orderBy position (orderByOfSegment catalog window)

theorem readOrderBy_eq (catalog : Catalog) (inside : position ≤ window.stop) :
    readOrderBy catalog window position = some (OrderBy.read catalog window position) := by
  refine take_eq inside fun segment taken => ?_
  simp only [orderByOfSegment, OrderBy.ofSegment, splitDirection_eq (segment_body_le taken),
    locate_eq, textOf_eq, known_eq, Option.bind_eq_bind, Option.bind_some]
  split <;> rfl

/-- The first word of a span that begins with a word. -/
def firstWord (window : Window) (span : Span) : Option Span := do
  let blank ← firstIn span.start span.stop (blankAt window)
  return .between span.start (blank.getD span.stop)

def limitOfSegment (window : Window) (segment : Clause.Segment) : Option (Except ParseError Nat) := do
  let word ← firstWord window segment.body
  if word.isEmpty then return .error (← locate window .limitNotANumber segment.keyword)
  else
    match Limit.ofWord (← chars window word.start word.stop) with
    | .ok limit => return .ok limit
    | .error cause => return .error (← locate window cause word)

def readLimit (window : Window) (position : Nat) : Option (Reading Nat) :=
  take window .limit position (limitOfSegment window)

theorem limitOfSegment_eq {segment : Clause.Segment} (inside : segment.body.stop ≤ window.stop) :
    limitOfSegment window segment = some (Limit.ofSegment window segment) := by
  have within := Nat.le_trans inside window.stop_le
  have word : firstWord window segment.body = some (Limit.firstWord window segment.body) := by
    rw [firstWord, firstIn_eq (blankAt_below within)]
    rfl
  simp only [limitOfSegment, Limit.ofSegment, word, locate_eq, chars_eq, Option.bind_eq_bind,
    Option.bind_some]
  split
  next => rfl
  next => cases Limit.ofWord _ <;> rfl

theorem readLimit_eq (inside : position ≤ window.stop) :
    readLimit window position = some (Limit.read window position) :=
  take_eq inside fun _ taken => limitOfSegment_eq (segment_body_le taken)

end FleetQuery.Guarded
