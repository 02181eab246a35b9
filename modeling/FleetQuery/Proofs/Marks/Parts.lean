import FleetQuery.Proofs.Marks.Spans
import FleetQuery.Proofs.Question.Pauses
import FleetQuery.Proofs.Question.Resolution

/-!
# Marks of the parts of a question

Every reader records where its text stands: the items of the list one after another up to its end,
the scope behind them, and what a clause asks for within its segment.
-/
namespace FleetQuery

/-- Whether a column is labelled with the text that it marks. -/
structure Column.Stands (column : Column) (chars : List Char) : Prop where
  marks : column.span.Marks chars
  label : column.label.toList = column.span.charsOf chars

theorem Column.stands_ofSpan {window : Window} {span : Span}
    (marks : span.Marks window.chars.toList) : (ofSpan window span).Stands window.chars.toList :=
  ⟨marks, by simp [ofSpan, Window.textOf_eq_ofList]⟩

/-! ### Items -/

namespace Projection

/-- The items of a list stand one after another up to its end. -/
theorem listed_of_cut (window : Window) (pivot position : Nat) (ordered : pivot ≤ position) :
    ∀ found, cut window pivot position = some found → Span.Listed found.2 pivot found.1 := by
  fun_induction cut window pivot position with
  | case1 =>
    intro found ends
    cases ends
  | case2 pivot position going ended =>
    intro found ends
    cases ends
    exact .cons_between ordered (.nil (Nat.le_refl _))
  | case3 pivot position going ended comma ih =>
    intro found ends
    obtain ⟨others, later, rfl⟩ := Option.map_eq_some_iff.mp ends
    exact .cons_between ordered ((ih (Nat.le_refl _) others later).earlier (by omega))
  | case4 pivot position going ended comma word next ih =>
    intro found ends
    obtain ⟨others, later, rfl⟩ := Option.map_eq_some_iff.mp ends
    have behind := lt_afterSeparator window position
    exact .cons_between ordered ((ih (Nat.le_refl _) others later).earlier (by omega))
  | case5 pivot position going ended comma word ih => exact ih (by omega)

/-- The column that an item names. -/
def Item.column? : Item → Option Column
  | .column shown => some shown
  | .aggregate call => call.target

/-- The target of a call is labelled with its text, which is part of the item. -/
theorem aggregateCall?_stands {window : Window} {span : Span} {call : AggregateCall}
    (inside : span.stop ≤ window.stop) (found : aggregateCall? window span = some call) :
    ∀ target ∈ call.target, target.Stands window.chars.toList ∧ target.span.Inside span := by
  intro target targeted
  rw [aggregateCall?] at found
  split at found
  next =>
    obtain ⟨aggregate, _, rfl⟩ := Option.map_eq_some_iff.mp found
    dsimp only at targeted
    split at targeted
    next => cases targeted
    next visible =>
      obtain rfl := Option.some.inj targeted
      rw [Bool.not_eq_true] at visible
      obtain ⟨_, above, below⟩ := Window.trimSpan_between_bounds visible
      refine ⟨Column.stands_ofSpan (Window.marks_trimSpan_between (by omega) visible), ?_, ?_⟩
      · exact Nat.le_trans (by omega) above
      · exact below.trans (Nat.sub_le _ _)
  next => cases found

/-- The column of an item is labelled with its text, which is part of the item. -/
theorem readItem_stands {catalog : Catalog} {window : Window} {span : Span} {item : Item}
    (marks : span.Marks window.chars.toList) (inside : span.stop ≤ window.stop)
    (returned : readItem catalog window span = .ok item) :
    ∀ column ∈ item.column?, column.Stands window.chars.toList ∧ column.span.Inside span := by
  rw [readItem] at returned
  split at returned
  next call found =>
    have within := aggregateCall?_stands inside found
    -- the field of the target is looked up, and the call stays as it was read
    split at returned
    next untargeted =>
      cases returned
      exact within
    next target targeted =>
      obtain ⟨_, _, rfl⟩ := (map_eq_ok_iff _ _ _).mp returned
      exact within
  next =>
    obtain ⟨_, found, rfl⟩ := (map_eq_ok_iff _ _ _).mp returned
    obtain ⟨rfl, _⟩ := (Column.known_eq_ok_iff _ _ _ _ _).mp found
    rintro column ⟨⟩
    exact ⟨Column.stands_ofSpan marks, Nat.le_refl _, Nat.le_refl _⟩

/-- The columns that aggregations ask about. -/
def targets (projection : Projection) : List Column :=
  projection.aggregations.filterMap AggregateCall.target

/-- What is said of the columns and targets of a list: they stand in the text one after another, in
the order of the items. -/
structure Marked (projection : Projection) (chars : List Char) (start stop : Nat)
    (marks : List Column) : Prop where
  listed : Span.Listed stop start (marks.map Column.span)
  stand : ∀ column ∈ marks, column.Stands chars
  columns : projection.columns.Sublist marks
  targets : projection.targets.Sublist marks
  all : (projection.columns ++ projection.targets).Perm marks

theorem ofItems_marked (items : List Item) :
    (ofItems items).columns.Sublist (items.filterMap Item.column?) ∧
      (ofItems items).targets.Sublist (items.filterMap Item.column?) ∧
      ((ofItems items).columns ++ (ofItems items).targets).Perm
        (items.filterMap Item.column?) := by
  induction items with
  | nil => exact ⟨.slnil, .slnil, .nil⟩
  | cons item rest ih =>
    obtain ⟨columns, targets, all⟩ := ih
    cases item with
    | column shown =>
      exact ⟨columns.cons_cons shown, targets.cons shown, all.cons shown⟩
    | aggregate call =>
      simp only [ofItems, Projection.targets, List.filterMap_cons, Item.column?] at *
      cases call.target with
      | none => exact ⟨columns, targets, all⟩
      | some target =>
        exact ⟨columns.cons target, targets.cons_cons target,
          List.perm_middle.trans (all.cons target)⟩

theorem read_marked {catalog : Catalog} {window : Window} {position : Nat}
    {projection : Projection}
    (returned : (read catalog window position).outcome = .ok projection) :
    ∃ marks, projection.Marked window.chars.toList position
      (read catalog window position).position marks := by
  have ends := endsAt_of_read returned
  rw [read] at returned ends ⊢
  cases found : cut window position position with
  | none =>
    rw [found] at returned
    cases returned
  | some cutting =>
    obtain ⟨spans, stop⟩ := cutting
    rw [found] at returned ends
    have inside : stop ≤ window.stop :=
      Nat.le_of_add_right_le (Keyword.le_stop_of_matchesAt ends)
    have listed := listed_of_cut window position position (Nat.le_refl _) _ found
    obtain ⟨items, traversed, rfl⟩ := (map_eq_ok_iff _ _ _).mp returned
    have pieces := listed.trimmed window
    have marks := Window.marks_of_mem_trimmed
      fun span member => (listed.within span member).2.trans inside
    have stands : ∀ piece ∈ Projection.pieces window spans, ∀ item,
        readItem catalog window piece = .ok item → ∀ column ∈ item.column?,
          column.Stands window.chars.toList ∧ column.span.Inside piece :=
      fun piece member item =>
        readItem_stands (marks piece member) ((pieces.within piece member).2.trans inside)
    -- the columns and targets in the order of the items, each inside the piece of its item
    obtain ⟨columns, targets, all⟩ := ofItems_marked items
    refine ⟨items.filterMap Item.column?, ?_, ?_, columns, targets, all⟩
    · rw [List.map_filterMap]
      apply pieces.filterMap
      have each := (List.forall₂_and_left _ _).mpr ⟨stands, (mapM_eq_ok_iff _ _ _).mp traversed⟩
      refine each.imp ?_
      rintro piece item ⟨stands, read⟩ mark marked
      obtain ⟨column, named, rfl⟩ := Option.map_eq_some_iff.mp marked
      exact (stands item read column named).2
    · intro column member
      obtain ⟨item, among, named⟩ := List.mem_filterMap.mp member
      obtain ⟨piece, kept, read⟩ := mapM_mem traversed among
      exact (stands piece kept item read column named).1

end Projection
/-! ### Keywords -/

namespace Keyword

/-- A phrase is spelled letter by letter. -/
theorem spells_getElem? {chars : Array Char} {letters : List Char} {position ahead : Nat}
    (spelled : spells chars position letters = true) (inside : ahead < letters.length) :
    ∃ c, chars[position + ahead]? = some c ∧ Text.lowerChar c = [letters[ahead]] := by
  induction letters generalizing position ahead with
  | nil => cases inside
  | cons letter rest ih =>
    rw [spells, Bool.and_eq_true] at spelled
    cases ahead with
    | zero =>
      obtain ⟨here, _⟩ := spelled
      split at here
      next c found => exact ⟨c, found, by simpa using here⟩
      next => cases here
    | succ ahead =>
      obtain ⟨c, found, lowered⟩ := ih spelled.2 (Nat.lt_of_succ_lt_succ inside)
      refine ⟨c, ?_, lowered⟩
      rw [← found]
      congr 1
      omega

theorem spells_of_matchesAt {keyword : Keyword} {window : Window} {position : Nat}
    (found : keyword.matchesAt window position = true) :
    spells window.chars position keyword.letters = true := by
  simp only [matchesAt, Bool.and_eq_true] at found
  exact found.1.2

/-- A keyword has a blank where its phrase does. -/
theorem blankAt_letter {keyword : Keyword} {window : Window} {position ahead : Nat}
    (plain : keyword.isPlain) (found : keyword.matchesAt window position = true)
    (inside : ahead < keyword.letters.length) :
    window.blankAt (position + ahead) = Text.isBlank keyword.letters[ahead] := by
  have letters := List.all_eq_true.mp plain _ (List.getElem_mem inside)
  simp only [Bool.and_eq_true, decide_eq_true_eq, bne_iff_ne] at letters
  obtain ⟨c, here, lowered⟩ := spells_getElem? (spells_of_matchesAt found) inside
  rw [Text.lowerChar_eq_singleton_iff c _ letters.1.1 letters.1.2 letters.2] at lowered
  rw [Window.blankAt, here, ← lowered]
  exact (Text.isBlank_toLower c).symm

/-- A keyword begins with a blank where its phrase does. -/
theorem blankAt_of_head {keyword : Keyword} {window : Window} {position : Nat} {letter : Char}
    {rest : List Char} (plain : keyword.isPlain) (opens : keyword.letters = letter :: rest)
    (found : keyword.matchesAt window position = true) :
    window.blankAt position = Text.isBlank letter := by
  have inside : 0 < keyword.letters.length := by rw [opens]; exact Nat.zero_lt_succ _
  have first := blankAt_letter plain found inside
  simpa only [Nat.add_zero, opens, List.getElem_cons_zero] using first

end Keyword

/-! ### Segments -/

namespace Clause

variable {window : Window} {start position : Nat} {clause : Clause}

/-- A text that begins visibly does not end there. -/
theorem lt_segmentEnd (inside : start < window.stop) (visible : window.blankAt start = false) :
    start < segmentEnd window start := by
  unfold segmentEnd
  split
  next position clause found =>
    obtain ⟨above, _, begins⟩ := findBoundary?_eq_some found
    have boundary := List.find?_some begins
    rw [isBoundaryAt, Bool.and_eq_true] at boundary
    have blank :=
      Keyword.blankAt_of_head clause.boundary_isPlain (boundary_letters clause) boundary.1
    -- a clause is announced by a blank
    have other : start ≠ position := by
      rintro rfl
      rw [visible] at blank
      cases blank
    omega
  next => exact inside

/-- Where the parts of a clause stand that is read at a position. -/
structure Segment.Stands (segment : Segment) (window : Window) (position : Nat) : Prop where
  opens : segment.keyword.start = position
  keyword : segment.keyword.Marks window.chars.toList
  visible : ∃ c, window.chars.toList[position]? = some c ∧ Text.isBlank c = false
  behind : position < segment.body.start
  ends : segment.body.stop ≤ segment.next
  inside : segment.body.stop ≤ window.stop
  marks : segment.body.isEmpty = false → segment.body.Marks window.chars.toList

theorem keyword_opens (clause : Clause) : ∃ letter rest,
    clause.keyword.letters = letter :: rest ∧ Text.isBlank letter = false := by
  cases clause <;> exact ⟨_, _, rfl, by decide⟩

/-- The keyword of a clause ends with a letter before its blank. -/
theorem keyword_closes (clause : Clause) : 0 < clause.name.length ∧
    clause.keyword.length = clause.name.length + 1 ∧
    ∃ letter, clause.keyword.letters[clause.name.length - 1]? = some letter ∧
      Text.isBlank letter = false := by
  cases clause <;> exact ⟨by decide, by decide, _, rfl, by decide⟩

/-- Where the keyword of a clause stands, its name marks visible text. -/
theorem keyword_marks (here : clause.keyword.matchesAt window position) :
    (Span.between position (position + clause.name.length)).Marks window.chars.toList := by
  have fits := Keyword.le_stop_of_matchesAt here
  obtain ⟨first, rest, opens, shown⟩ := clause.keyword_opens
  obtain ⟨positive, size, last, closes, visible⟩ := clause.keyword_closes
  obtain ⟨inside, rfl⟩ := List.getElem?_eq_some_iff.mp closes
  have begins := Keyword.blankAt_of_head clause.keyword_isPlain opens here
  have ends := Keyword.blankAt_letter clause.keyword_isPlain here inside
  have stop : (Span.between position (position + clause.name.length)).stop =
      position + clause.name.length := Nat.max_eq_right (Nat.le_add_right _ _)
  refine Window.marks_of_visible ?_ ?_ (begins.trans shown) ?_
  · rw [stop]
    exact Nat.lt_add_of_pos_right positive
  · omega
  · rw [stop, Nat.add_sub_assoc positive]
    exact ends.trans visible

theorem segment?_stands {segment : Segment}
    (taken : segment? window clause position = some segment) : segment.Stands window position := by
  rw [segment?] at taken
  split at taken
  next here =>
    have fits := Keyword.le_stop_of_matchesAt here
    have size := window.stop_le
    have positive := clause.keyword_length_pos
    have jumped : window.jump position clause.keyword.length = position + clause.keyword.length :=
      Nat.min_eq_left fits
    obtain ⟨letter, rest, opens, shown⟩ := clause.keyword_opens
    have visible := Keyword.blankAt_of_head clause.keyword_isPlain opens here
    rw [shown] at visible
    have above := le_segmentEnd window _ fits
    have below := segmentEnd_le window (position + clause.keyword.length)
    rw [jumped] at taken
    cases taken
    have reached : window.jumpTo (segmentEnd window (position + clause.keyword.length)) =
        segmentEnd window (position + clause.keyword.length) := Nat.min_eq_left below
    have trimmed := window.trimSpan_inside (.between (position + clause.keyword.length)
      (segmentEnd window (position + clause.keyword.length)))
    have ends := trimmed.2.trans (Nat.max_eq_right above).le
    constructor
    · rfl
    · exact keyword_marks here
    · exact Window.exists_visible (by omega) visible
    · exact Nat.lt_of_lt_of_le (Nat.lt_add_of_pos_right positive) trimmed.1
    · rw [reached]
      exact ends.trans (window.le_skipBlanks _ _)
    · exact ends.trans below
    · exact Window.marks_trimSpan_between below
  next => cases taken

end Clause
/-! ### Scopes -/

namespace Scope

theorem ofSpan_span (catalog : Catalog) (window : Window) (span : Span) :
    (ofSpan catalog window span).1.span = span ∧
      ∀ warning ∈ (ofSpan catalog window span).2, warning.span = span := by
  rw [ofSpan]
  split
  next => exact ⟨rfl, nofun⟩
  next =>
    refine ⟨rfl, ?_⟩
    intro warning member
    dsimp only at member
    split at member
    next => cases member
    next =>
      rw [List.mem_singleton.mp member]

/-- The scope stands behind the list of items and before the clauses. -/
theorem read_stands {catalog : Catalog} {window : Window} {position : Nat}
    {scope : Scope × List Warning} (opens : Projection.endsAt window position)
    (returned : (read catalog window position).outcome = .ok scope) :
    scope.1.span.Marks window.chars.toList ∧ position ≤ scope.1.span.start ∧
      scope.1.span.stop ≤ (read catalog window position).position ∧
      ∀ warning ∈ scope.2, warning.span = scope.1.span := by
  have fits := Keyword.le_stop_of_matchesAt opens
  have jumped : window.jump position Keyword.scopeOpening.length =
      position + Keyword.scopeOpening.length := Nat.min_eq_left fits
  have behind : position ≤ window.skipAhead (position + Keyword.scopeOpening.length) :=
    (Nat.le_add_right _ _).trans (window.le_skipBlanks _ _)
  have shown : window.skipAhead (position + Keyword.scopeOpening.length) < window.stop →
      window.blankAt (window.skipAhead (position + Keyword.scopeOpening.length)) = false :=
    Window.blankAt_skipBlanks
  rw [read, jumped] at returned ⊢
  dsimp only at returned ⊢
  generalize window.skipAhead (position + Keyword.scopeOpening.length) = start at *
  split at returned
  next => cases returned
  next going =>
    rw [if_neg going]
    cases returned
    -- the scope begins visibly, so that something is left of it
    have visible := shown (Nat.not_le.mp going)
    have longer := Clause.lt_segmentEnd (Nat.not_le.mp going) visible
    have below := Clause.segmentEnd_le window start
    obtain ⟨nonempty, first⟩ := Window.trimSpan_of_visible longer below visible
    have marks := Window.marks_trimSpan_between below nonempty
    have ends := (Window.trimSpan_between_bounds nonempty).2.2
    obtain ⟨same, warned⟩ := ofSpan_span catalog window
      (window.trimSpan (.between start (Clause.segmentEnd window start)))
    rw [same, first, Window.jumpTo, Nat.min_eq_left below]
    exact ⟨marks, behind, ends.trans (window.le_skipBlanks _ _), warned⟩

end Scope

/-! ### Grouping and order -/

/-- Whether a grouping marks its keyword together with its column. -/
structure GroupBy.Stands (groupBy : GroupBy) (chars : List Char) : Prop where
  column : groupBy.column.Stands chars
  marks : groupBy.span.Marks chars
  start : groupBy.span.start < groupBy.column.span.start
  stop : groupBy.span.stop = groupBy.column.span.stop

theorem GroupBy.ofSegment_stands {catalog : Catalog} {window : Window} {segment : Clause.Segment}
    {position : Nat} {groupBy : GroupBy} (stands : segment.Stands window position)
    (returned : ofSegment catalog window segment = .ok groupBy) :
    groupBy.Stands window.chars.toList ∧ groupBy.span.start = position ∧
      groupBy.span.stop = segment.body.stop := by
  rw [ofSegment] at returned
  split at returned
  next => cases returned
  next nonempty =>
    obtain ⟨_, found, rfl⟩ := (map_eq_ok_iff _ _ _).mp returned
    obtain ⟨rfl, _⟩ := (Column.known_eq_ok_iff _ _ _ _ _).mp found
    have body := stands.marks ((Bool.not_eq_true _).mp nonempty)
    have behind := stands.behind
    have ordered := segment.body.ordered
    have ends : (Span.between segment.keyword.start segment.body.stop).stop = segment.body.stop :=
      Nat.max_eq_right (by rw [stands.opens]; omega)
    refine ⟨⟨Column.stands_ofSpan body, ?_, ?_, ends⟩, stands.opens, ends⟩
    · refine ⟨?_, ends.le.trans body.inside, ?_, ?_⟩
      · rw [ends]
        exact stands.opens ▸ Nat.lt_of_lt_of_le behind ordered
      · exact stands.opens ▸ stands.visible
      · rw [ends]
        exact body.last
    · exact stands.opens ▸ behind

/-- Whether an order is labelled with the words of the text that its column marks. -/
structure OrderBy.Stands (order : OrderBy) (chars : List Char) : Prop where
  marks : order.column.span.Marks chars
  label : order.column.label =
    String.intercalate " " (Text.words (String.ofList (order.column.span.charsOf chars)))

namespace OrderBy

/-- The direction is taken off the end of the body. -/
theorem splitDirection_marks {window : Window} {body : Span}
    (visible : (splitDirection window body).1.isEmpty = false) (inside : body.stop ≤ window.stop) :
    (splitDirection window body).1.Marks window.chars.toList ∧
      (splitDirection window body).1.Inside body := by
  have shorter : ∀ stop, stop ≤ body.stop →
      (window.trimSpan (.between body.start stop)).isEmpty = false →
      (window.trimSpan (.between body.start stop)).Marks window.chars.toList ∧
        (window.trimSpan (.between body.start stop)).Inside body := by
    intro stop less visible
    obtain ⟨_, above, below⟩ := Window.trimSpan_between_bounds visible
    exact ⟨Window.marks_trimSpan_between (less.trans inside) visible, above, below.trans less⟩
  revert visible
  rw [splitDirection]
  split
  next => exact shorter _ (lastWord_le window body)
  next =>
    split
    next => exact shorter _ (lastWord_le window body)
    next =>
      intro visible
      exact ⟨Window.marks_trimSpan inside visible, window.trimSpan_inside body⟩

theorem ofSegment_stands {catalog : Catalog} {window : Window} {segment : Clause.Segment}
    {position : Nat} {order : OrderBy} (stands : segment.Stands window position)
    (returned : ofSegment catalog window segment = .ok order) :
    order.Stands window.chars.toList ∧ order.column.span.Inside segment.body := by
  rw [ofSegment] at returned
  dsimp only at returned
  split at returned
  next => cases returned
  next nonempty =>
    obtain ⟨_, found, rfl⟩ := (map_eq_ok_iff _ _ _).mp returned
    obtain ⟨rfl, _⟩ := (Column.known_eq_ok_iff _ _ _ _ _).mp found
    obtain ⟨marks, inside⟩ :=
      splitDirection_marks ((Bool.not_eq_true _).mp nonempty) stands.inside
    refine ⟨⟨marks, ?_⟩, inside⟩
    dsimp only
    rw [Text.squeeze, Window.textOf_eq_ofList]

end OrderBy

end FleetQuery
