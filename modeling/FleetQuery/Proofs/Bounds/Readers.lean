import FleetQuery.Proofs.Bounds.Scanners
import FleetQuery.Proofs.Outcome

/-!
# Items and scopes read with checks

The readers of the list of items and of the scope on top of the scanners that check their bounds. A
loop that would go on where it is has the outcome `none` as well. Main statements:
`readProjection_eq` and `readScope_eq`.
-/
namespace FleetQuery.Guarded

variable {window : Window} {position : Nat}

/-- Reads one input after the other up to the first error. -/
def readAll {α β : Type} (read : α → Option (Except ParseError β)) :
    List α → Option (Except ParseError (List β))
  | [] => some (.ok [])
  | input :: rest => do
    match ← read input with
    | .error error => return .error error
    | .ok found => return (← readAll read rest).map (found :: ·)

theorem readAll_eq {α β : Type} {read : α → Option (Except ParseError β)}
    {known : α → Except ParseError β} {inputs : List α}
    (reads : ∀ input ∈ inputs, read input = some (known input)) :
    readAll read inputs = some (inputs.mapM known) := by
  induction inputs with
  | nil => rfl
  | cons input rest ih =>
    obtain ⟨first, later⟩ := List.forall_mem_cons.mp reads
    rw [readAll, first, List.mapM_cons]
    cases known input with
    | error error => rfl
    | ok found =>
      rw [Option.bind_eq_bind, Option.bind_some]
      dsimp only
      rw [ih later]
      cases rest.mapM known <;> rfl

/-- The spans that hold more than blanks, without the blanks around them. -/
def trimmed (window : Window) (spans : List Span) : Option (List Span) := do
  return (← spans.mapM (trimSpan window)).filter fun piece => !piece.isEmpty

theorem trimmed_eq (window : Window) (spans : List Span) : trimmed window spans =
    some ((spans.map window.trimSpan).filter fun piece => !piece.isEmpty) := by
  rw [trimmed, mapM_eq_some_map _ window.trimSpan spans fun span _ => trimSpan_eq window span]
  rfl

/-! ### Columns -/

def columnOfSpan (window : Window) (span : Span) : Option Column :=
  (textOf window span).map fun label => ⟨label, span⟩

def known (column : Column) (window : Window) (catalog : Catalog) (cause : ParseError.Cause) :
    Option (Except ParseError Column) :=
  if (catalog.field? column.label).isSome then some (.ok column)
  else (locate window cause column.span).map .error

theorem columnOfSpan_eq (window : Window) (span : Span) :
    columnOfSpan window span = some (.ofSpan window span) := by
  rw [columnOfSpan, textOf_eq, Column.ofSpan, Option.map_some]

theorem known_eq (column : Column) (window : Window) (catalog : Catalog)
    (cause : ParseError.Cause) :
    known column window catalog cause = some (column.known window catalog cause) := by
  rw [known, Column.known, locate_eq, Option.map_some]
  split <;> rfl

/-! ### Lists of items -/

/-- Where the next item begins if a separator stands at `position`: behind a comma, and behind the
word `and` or at its closing blank if that opens ` from `. -/
def afterSeparator? (window : Window) (position : Nat) : Option (Option Nat) := do
  if ← hasAt window position ',' then
    return some (← advance window position)
  else if ← matchesAt .itemSeparator window position then
    let blank ← jump window position (Keyword.itemSeparator.length - 1)
    if ← matchesAt .scopeOpening window blank then return some blank
    else return some (← advance window blank)
  else return none

theorem afterSeparator?_eq (inside : position < window.stop) : afterSeparator? window position =
    some (if window.hasAt position ',' then some (position + 1)
      else if Keyword.itemSeparator.matchesAt window position then
        some (Projection.afterSeparator window position)
      else none) := by
  have within := window.stop_le
  rw [afterSeparator?, hasAt_eq (by omega)]
  cases comma : window.hasAt position ',' with
  | true => simp [advance_eq inside]
  | false =>
    cases joined : Keyword.itemSeparator.matchesAt window position with
    | false => simp [matchesAt_eq, joined]
    | true =>
      -- the word fits into the window, so its closing blank is not at the end
      have fits : position + 5 ≤ window.stop := Keyword.le_stop_of_matchesAt joined
      have blank : window.jump position (Keyword.itemSeparator.length - 1) = position + 4 :=
        Nat.min_eq_left (show position + 4 ≤ window.stop by omega)
      have next : advance window (position + 4) = some (position + 5) :=
        advance_eq (by omega)
      cases opens : Keyword.scopeOpening.matchesAt window (position + 4) <;>
        simp [matchesAt_eq, joined, jump_eq (Nat.le_of_lt inside), blank, opens, next,
          Projection.afterSeparator, Projection.endsAt]

/-- The word `and` fits into the window, and so does what is passed over with it. -/
theorem afterSeparator_le (joined : Keyword.itemSeparator.matchesAt window position) :
    Projection.afterSeparator window position ≤ window.stop := by
  have fits : position + 5 ≤ window.stop := Keyword.le_stop_of_matchesAt joined
  rw [Projection.afterSeparator]
  split <;> omega

/-- Cuts the text from `position` on into items, and gives the position where the list ends. There is
no list without an end. -/
def cut (window : Window) (pivot position : Nat) : Option (Option (List Span) × Nat) :=
  if window.stop ≤ position then some (none, position)
  else do
    if ← matchesAt .scopeOpening window position then
      return (some [.between pivot position], position)
    else
      match ← afterSeparator? window position with
      | some next =>
        if position < next then
          let (items, stop) ← cut window next next
          return (items.map (.between pivot position :: ·), stop)
        else none
      | none =>
        let next ← advance window position
        if position < next then cut window pivot next else none
termination_by window.stop - position

theorem cut_of_separator {pivot next : Nat} (below : position < window.stop)
    (unfinished : ¬ Projection.endsAt window position)
    (separated : afterSeparator? window position = some (some next)) (forward : position < next)
    {items : Option (List Span)} {stop : Nat} (later : cut window next next = some (items, stop)) :
    cut window pivot position = some (items.map (.between pivot position :: ·), stop) := by
  have other : Keyword.scopeOpening.matchesAt window position = false := by
    simpa [Projection.endsAt] using unfinished
  rw [cut, if_neg (Nat.not_le.mpr below), matchesAt_eq, other, separated]
  simp [forward, later]

theorem cut_eq (inside : position ≤ window.stop) (pivot : Nat) :
    cut window pivot position = some ((Projection.cut window pivot position).map Prod.fst,
      ((Projection.cut window pivot position).map Prod.snd).getD window.stop) := by
  -- one round of the unchecked loop is one round of the checked one, with the same next position
  fun_induction Projection.cut window pivot position with
  | case1 pivot position finished =>
    rw [cut, if_pos finished]
    simp [Nat.le_antisymm finished inside]
  | case2 pivot position going ends =>
    rw [cut, if_neg going, matchesAt_eq]
    simp [show Keyword.scopeOpening.matchesAt window position = true from ends]
  | case3 pivot position going unfinished comma ih =>
    rw [Nat.not_le] at going
    have separated : afterSeparator? window position = some (some (position + 1)) := by
      rw [afterSeparator?_eq going, if_pos comma]
    rw [cut_of_separator going unfinished separated (Nat.lt_succ_self position) (ih (by omega))]
    cases Projection.cut window (position + 1) (position + 1) <;> rfl
  | case4 pivot position going unfinished plain joined next ih =>
    rw [Nat.not_le] at going
    have separated : afterSeparator? window position = some (some next) := by
      rw [afterSeparator?_eq going, if_neg plain, if_pos joined]
    rw [cut_of_separator going unfinished separated (Projection.lt_afterSeparator window position)
      (ih (afterSeparator_le joined))]
    cases Projection.cut window next next <;> rfl
  | case5 pivot position going unfinished plain whole ih =>
    rw [Nat.not_le] at going
    have other : Keyword.scopeOpening.matchesAt window position = false := by
      simpa [Projection.endsAt] using unfinished
    rw [cut, if_neg (Nat.not_le.mpr going), matchesAt_eq, other, afterSeparator?_eq going,
      if_neg plain, if_neg whole]
    simp [advance_eq going, ih going]

/-- The aggregate call that an item spells, if it has the form of one. -/
def aggregateCall? (window : Window) (span : Span) : Option (Option AggregateCall) := do
  let lowered := Text.lowerChars (← chars window span.start span.stop)
  if lowered.getLast? = some ')' then
    match Aggregate.all.find? fun aggregate =>
      (aggregate.name.toList ++ ['(']).isPrefixOf lowered with
    | none => return none
    | some aggregate =>
      let opening := span.start + aggregate.name.length
      let inner ← trimSpan window (.between (opening + 1) (span.stop - 1))
      if inner.isEmpty then return some ⟨aggregate, none⟩
      else return some ⟨aggregate, some (← columnOfSpan window inner)⟩
  else return none

theorem aggregateCall?_eq (window : Window) (span : Span) :
    aggregateCall? window span = some (Projection.aggregateCall? window span) := by
  simp only [aggregateCall?, Projection.aggregateCall?, chars_eq, trimSpan_eq, columnOfSpan_eq,
    Option.bind_eq_bind, Option.bind_some]
  split
  next =>
    cases Aggregate.all.find? _ with
    | none => rfl
    | some aggregate =>
      dsimp only [Option.map_some]
      split <;> rfl
  next => rfl

def readItem (catalog : Catalog) (window : Window) (span : Span) :
    Option (Except ParseError Projection.Item) := do
  match ← aggregateCall? window span with
  | some call =>
    match call.target with
    | none => return .ok (.aggregate call)
    | some target =>
      let found ← known target window catalog
        (Projection.unknownTarget call.aggregate target.label)
      return found.map fun _ => .aggregate call
  | none =>
    let column ← columnOfSpan window span
    return (← known column window catalog (.unknownColumn column.label)).map .column

theorem readItem_eq (catalog : Catalog) (window : Window) (span : Span) :
    readItem catalog window span = some (Projection.readItem catalog window span) := by
  simp only [readItem, Projection.readItem, aggregateCall?_eq, columnOfSpan_eq, known_eq,
    Option.bind_eq_bind, Option.bind_some]
  cases Projection.aggregateCall? window span with
  | none => rfl
  | some call =>
    obtain ⟨aggregate, target⟩ := call
    cases target <;> rfl

/-- Reads the list from `position` to the blank that opens ` from `. -/
def readProjection (catalog : Catalog) (window : Window) (position : Nat) :
    Option (Reading Projection) := do
  let (items, stop) ← cut window position position
  match items with
  | none =>
    let error ← locate window .missingFrom (.between window.start (window.start + 3))
    return ⟨.error error, stop⟩
  | some items =>
    let found ← readAll (readItem catalog window) (← trimmed window items)
    return ⟨found.map Projection.ofItems, stop⟩

theorem readProjection_eq (catalog : Catalog) (inside : position ≤ window.stop) :
    readProjection catalog window position = some (Projection.read catalog window position) := by
  rw [readProjection, cut_eq inside, Projection.read]
  cases Projection.cut window position position with
  | none => simp [locate_eq, Nat.max_eq_right inside]
  | some cutting =>
    have found : readAll (readItem catalog window) (Projection.pieces window cutting.1) =
        some ((Projection.pieces window cutting.1).mapM (Projection.readItem catalog window)) :=
      readAll_eq fun item _ => readItem_eq catalog window item
    rw [Projection.pieces] at found
    simp [trimmed_eq, found, Projection.pieces]

/-! ### Scopes -/

def scopeOfSpan (catalog : Catalog) (window : Window) (span : Span) :
    Option (Scope × List Warning) := do
  let opening := Keyword.groupScope
  if (← matchesAt opening window span.start) && span.start + opening.length ≤ span.stop then
    let name ← trimSpan window (.between (span.start + opening.length) span.stop)
    let written := String.ofList (Scope.unquote (← chars window name.start name.stop))
    return (⟨.group (catalog.resolveGroup written), span⟩, [])
  else
    let text ← chars window span.start span.stop
    return (⟨.all, span⟩,
      if Text.sameIgnoringAsciiCase text "all".toList then []
      else [⟨.unrecognizedScope (String.ofList text), span⟩])

theorem scopeOfSpan_eq (catalog : Catalog) (window : Window) (span : Span) :
    scopeOfSpan catalog window span = some (Scope.ofSpan catalog window span) := by
  simp only [scopeOfSpan, Scope.ofSpan, matchesAt_eq, trimSpan_eq, chars_eq, Option.bind_eq_bind,
    Option.bind_some]
  split <;> rfl

/-- Reads the scope after the ` from ` at `position`, up to the first clause. -/
def readScope (catalog : Catalog) (window : Window) (position : Nat) :
    Option (Reading (Scope × List Warning)) := do
  let opening := Keyword.scopeOpening
  let start ← skipAhead window (← jump window position opening.length)
  if window.stop ≤ start then
    let error ← locate window .missingScope (.between (position + 1) (position + opening.length - 1))
    return ⟨.error error, start⟩
  else
    let stop ← segmentEnd window start
    let span ← trimSpan window (.between start stop)
    let next ← skipAhead window (← jumpTo window start stop)
    return ⟨.ok (← scopeOfSpan catalog window span), next⟩

theorem readScope_eq (catalog : Catalog) (inside : position ≤ window.stop) :
    readScope catalog window position = some (Scope.read catalog window position) := by
  -- the cursor stops four times, each time in the window and not before the last stop
  have jumped : window.jump position Keyword.scopeOpening.length ≤ window.stop :=
    Nat.min_le_right ..
  have start : window.skipAhead (window.jump position Keyword.scopeOpening.length) ≤
    window.stop := Window.skipBlanks_le jumped
  have stop := Clause.le_segmentEnd window _ start
  have held : window.jumpTo (Clause.segmentEnd window
      (window.skipAhead (window.jump position Keyword.scopeOpening.length))) ≤ window.stop :=
    Nat.min_le_right ..
  simp only [readScope, Scope.read, jump_eq inside, skipAhead_eq jumped, locate_eq, segmentEnd_eq,
    trimSpan_eq, jumpTo_eq start stop, skipAhead_eq held, scopeOfSpan_eq, Option.bind_eq_bind,
    Option.bind_some]
  split <;> rfl

end FleetQuery.Guarded
