import FleetQuery.Proofs.Outcome
import FleetQuery.Proofs.Question.Labels

/-!
# Reading written items

The list of items ends where ` from ` first begins, and it is cut where a comma or the word `and`
stands. No item holds any of them, so a written list is cut into its items, and each of these is read
as it was written. Main statement: `read_listing`.
-/
namespace FleetQuery.Projection

/-! ### Cutting a list -/

/-- Whether an item ends where the text goes on with `rest`. -/
def Stops (rest : List Char) : Prop :=
  Keyword.scopeOpening.letters <+: rest.map Char.toLower ∨ (∃ more, rest = ',' :: more) ∨
    Keyword.itemSeparator.letters <+: rest.map Char.toLower

/-- Whether no item ends within `chunk`, before `rest`. -/
def IsWhole (chunk rest : List Char) : Prop :=
  ∀ left right, chunk = left ++ right → right ≠ [] → ¬ Stops (right ++ rest)

section

variable {window : Window} {before chunk rest : List Char} {pivot : Nat}

theorem endsAt_iff (reads : window.Reads before rest) :
    endsAt window before.length = true ↔
      Keyword.scopeOpening.letters <+: rest.map Char.toLower :=
  Keyword.matchesAt_iff (by decide) rfl reads

theorem separator_matchesAt_iff (reads : window.Reads before rest) :
    Keyword.itemSeparator.matchesAt window before.length = true ↔
      Keyword.itemSeparator.letters <+: rest.map Char.toLower :=
  Keyword.matchesAt_iff (by decide) rfl reads

/-- The cut goes through a text in which no item ends. -/
theorem cut_chunk (reads : window.Reads before (chunk ++ rest)) (whole : IsWhole chunk rest) :
    cut window pivot before.length = cut window pivot (before ++ chunk).length := by
  induction chunk generalizing before with
  | nil => rw [List.append_nil]
  | cons c chunk ih =>
    have stop := reads.stop_eq
    have goes := whole [] (c :: chunk) rfl (List.cons_ne_nil c chunk)
    simp only [Stops, not_or] at goes
    -- the reader sees none of the three things that end an item, so it goes on by one character
    have noEnd : ¬ endsAt window before.length = true := fun ends =>
      goes.1 ((endsAt_iff reads).mp ends)
    have noComma : ¬ window.hasAt before.length ',' = true := by
      intro comma
      rw [Window.Reads.hasAt reads, beq_iff_eq] at comma
      exact goes.2.1 ⟨chunk ++ rest, by rw [comma]; rfl⟩
    have noWord : ¬ Keyword.itemSeparator.matchesAt window before.length = true := fun word =>
      goes.2.2 ((separator_matchesAt_iff reads).mp word)
    have later : IsWhole chunk rest := by
      intro left right split nonempty
      exact whole (c :: left) right (by rw [split]; rfl) nonempty
    have next := ih (Window.Reads.tail reads) later
    rw [List.length_append, List.length_singleton, List.append_assoc] at next
    rw [cut, if_neg (by simp [stop]), if_neg noEnd, if_neg noComma, if_neg noWord, next]
    rfl

theorem cut_end (reads : window.Reads before rest)
    (ends : Keyword.scopeOpening.letters <+: rest.map Char.toLower) :
    cut window pivot before.length = some ([.between pivot before.length], before.length) := by
  have stop := reads.stop_eq
  have length := ends.length_le
  rw [List.length_map] at length
  have positive : 0 < Keyword.scopeOpening.letters.length := by decide
  rw [cut, if_neg (by omega), if_pos ((endsAt_iff reads).mpr ends)]

theorem cut_comma (reads : window.Reads before (',' :: rest)) :
    cut window pivot before.length =
      (cut window (before.length + 1) (before.length + 1)).map fun (items, stop) =>
        (.between pivot before.length :: items, stop) := by
  have stop := reads.stop_eq
  have noEnd : ¬ endsAt window before.length = true := by
    rw [endsAt_iff reads]
    intro begins
    exact absurd (List.cons_prefix_cons.mp begins).1 (by decide)
  have comma : window.hasAt before.length ',' = true := by rw [reads.hasAt, beq_self_eq_true]
  rw [cut, if_neg (by simp [stop]), if_neg noEnd, if_pos comma]

theorem cut_word (reads : window.Reads before (" and ".toList ++ rest))
    (goes : ¬ Keyword.scopeOpening.letters <+: (' ' :: rest).map Char.toLower) :
    cut window pivot before.length =
      (cut window (before.length + 5) (before.length + 5)).map fun (items, stop) =>
        (.between pivot before.length :: items, stop) := by
  have stop := reads.stop_eq
  have size : " and ".toList.length = 5 := rfl
  rw [List.length_append, size] at stop
  have noEnd : ¬ endsAt window before.length = true := by
    rw [endsAt_iff reads]
    intro begins
    rw [show " and ".toList = ' ' :: 'a' :: "nd ".toList from rfl] at begins
    exact absurd (List.cons_prefix_cons.mp (List.cons_prefix_cons.mp begins).2).1 (by decide)
  have noComma : ¬ window.hasAt before.length ',' = true := by
    rw [Window.Reads.hasAt reads]
    decide
  have word : Keyword.itemSeparator.matchesAt window before.length = true := by
    rw [separator_matchesAt_iff reads, List.map_append]
    exact List.prefix_append _ _
  have split : window.Reads before (" and".toList ++ ' ' :: rest) := reads
  have after : ¬ endsAt window (before.length + 4) = true := by
    have here := endsAt_iff split.append
    rw [List.length_append] at here
    rw [show before.length + 4 = before.length + " and".toList.length from rfl, here]
    exact goes
  rw [cut, if_neg (by omega), if_neg noEnd, if_neg noComma, if_pos word, afterSeparator,
    if_neg after]

end

end FleetQuery.Projection

namespace FleetQuery.Written

/-! ### Written items -/

/-- A call in lower case. -/
def callText (aggregate : Aggregate) (target : List Char) : List Char :=
  aggregate.name.toList ++ '(' :: (target ++ [')'])

/-- The items in lower case. -/
def itemTexts : List (List Char) :=
  labelTexts ++ Aggregate.all.flatMap fun aggregate =>
    callText aggregate [] :: labelTexts.map (callText aggregate)

theorem Call.map_toLower_chars (call : Call) :
    call.chars.map Char.toLower =
      callText call.aggregate ((call.target.map Label.chars).getD [] |>.map Char.toLower) := by
  simp [Call.chars, callText, call.named]

theorem Item.lowered_mem (item : Item) : item.chars.map Char.toLower ∈ itemTexts := by
  cases item with
  | column label => exact List.mem_append_left _ label.lowered_mem
  | aggregate call =>
    have listed : call.aggregate ∈ Aggregate.all := by cases call.aggregate <;> decide
    apply List.mem_append_right
    refine List.mem_flatMap.mpr ⟨call.aggregate, listed, ?_⟩
    rw [Item.chars, call.map_toLower_chars]
    cases call.target with
    | none => exact List.mem_cons_self
    | some target =>
      exact List.mem_cons_of_mem _ (List.mem_map_of_mem target.lowered_mem)

/-- Both ends of an item are visible. It holds no comma and no word that ends an item, even if a space
stands before it. -/
theorem itemTexts_checked : ∀ text ∈ itemTexts,
    Text.isTrimmed text ∧ (text.all fun c => decide (c.toNat < 128)) ∧ ',' ∉ text ∧
      ¬ Keyword.scopeOpening.letters <:+: ' ' :: (text ++ [' ']) ∧
      ¬ Keyword.itemSeparator.letters <:+: ' ' :: (text ++ [' ']) := by
  decide +kernel

theorem Item.isTrimmed (item : Item) : Text.isTrimmed item.chars := by
  rw [← Text.isTrimmed_map_toLower]
  exact (itemTexts_checked _ item.lowered_mem).1

theorem Item.ascii (item : Item) : ∀ c ∈ item.chars, c.toNat < 128 := by
  apply Text.ascii_of_map_toLower
  simpa using (itemTexts_checked _ item.lowered_mem).2.1

/-- Whether an item ends where the text goes on with `rest`: at a comma or at a space. -/
def EndsItem (rest : List Char) : Prop :=
  (∃ more, rest = ',' :: more) ∨ ∃ letter more, rest.map Char.toLower = ' ' :: letter :: more

/-- A word that ends items has no space but at its ends. -/
theorem not_infix_of_no_space {phrase text right rest : List Char} (nonempty : right ≠ [])
    (inside : right.map Char.toLower <:+ ' ' :: text) (comma : ',' ∉ phrase)
    (single : ' ' ∉ phrase.tail.dropLast)
    (absent : ¬ phrase <:+: ' ' :: (text ++ [' '])) (ends : EndsItem rest) :
    ¬ phrase <+: (right ++ rest).map Char.toLower := by
  intro begins
  have wider : right.map Char.toLower ++ [' '] <:+: ' ' :: (text ++ [' ']) := by
    obtain ⟨front, split⟩ := inside
    exact ⟨front, [], by rw [List.append_nil, ← List.append_assoc, split]; rfl⟩
  rw [List.map_append] at begins
  -- a phrase that reached over the end would hold a comma or one more space
  rcases ends with ⟨more, rfl⟩ | ⟨letter, more, opens⟩
  · have within := prefix_of_prefix_append_cons (c := ',') comma begins
    exact absent ((within.trans (List.prefix_append _ _)).isInfix.trans wider)
  · have onlyLast : ¬ [' ', letter] <:+: phrase.tail := by
      rintro ⟨front, back, whole⟩
      apply single
      rw [← whole, List.append_assoc, List.dropLast_append_of_ne_nil (by simp)]
      exact List.mem_append_right _ (by simp)
    rw [opens] at begins
    have within := prefix_append_space (by simpa using nonempty) onlyLast begins
    exact absent (within.isInfix.trans wider)

theorem Item.isWhole (item : Item) {lead rest : List Char} (space : lead = [] ∨ lead = [' '])
    (ends : EndsItem rest) : Projection.IsWhole (lead ++ item.chars) rest := by
  obtain ⟨_, _, noComma, noScope, noWord⟩ := itemTexts_checked _ item.lowered_mem
  intro left right split nonempty
  have inside : right.map Char.toLower <:+ ' ' :: item.chars.map Char.toLower := by
    have suffix : right <:+ lead ++ item.chars := ⟨left, split.symm⟩
    have lowered := suffix.map Char.toLower
    rcases space with rfl | rfl
    · exact lowered.trans (List.suffix_cons _ _)
    · exact lowered
  rintro (scope | ⟨more, comma⟩ | word)
  · exact not_infix_of_no_space nonempty inside (by decide) (by decide) noScope ends scope
  · obtain ⟨c, right, rfl⟩ := List.exists_cons_of_ne_nil nonempty
    rw [List.cons_append, List.cons.injEq] at comma
    have member := inside.subset List.mem_cons_self
    rw [comma.1] at member
    rcases List.mem_cons.mp member with space | held
    · exact absurd space (by decide)
    · exact noComma held
  · exact not_infix_of_no_space nonempty inside (by decide) (by decide) noWord ends word

theorem endsItem_scope (rest : List Char) : EndsItem (" from ".toList ++ rest) :=
  .inr ⟨'f', _, rfl⟩

theorem endsItem_separator (separator : Separator) (rest : List Char) :
    EndsItem (separator.chars ++ rest) := by
  cases separator with
  | comma => exact .inl ⟨' ' :: rest, rfl⟩
  | word => exact .inr ⟨'a', _, rfl⟩

/-- A listing begins with an item. -/
theorem Listing.exists_first (listing : Listing) (rest : List Char) :
    ∃ (first : Item) (after : List Char), EndsItem after ∧
      listing.chars ++ (" from ".toList ++ rest) = first.chars ++ after := by
  cases listing with
  | item only => exact ⟨only, _, endsItem_scope rest, rfl⟩
  | more first separator others =>
    refine ⟨first, separator.chars ++ (others.chars ++ (" from ".toList ++ rest)),
      endsItem_separator separator _, ?_⟩
    simp [Listing.chars]

section

variable {window : Window} {before rest : List Char}

/-- An item stands where a piece of the list is trimmed. -/
theorem Item.spells_trimSpan (item : Item) {lead : List Char} (space : lead = [] ∨ lead = [' '])
    (reads : window.Reads before (lead ++ (item.chars ++ rest))) :
    window.Spells
      (window.trimSpan (.between before.length (before ++ (lead ++ item.chars)).length))
      item.chars := by
  have blank : ∀ b ∈ lead, Text.isBlank b = true := by
    rcases space with rfl | rfl <;> simp [show Text.isBlank ' ' = true from rfl]
  have whole : window.Reads before (lead ++ (item.chars ++ ([] ++ rest))) := reads
  have trimmed := whole.trimSpan blank item.isTrimmed fun b member => absurd member List.not_mem_nil
  refine ⟨before ++ lead, rest, reads.append, ?_⟩
  simpa [Nat.add_assoc] using trimmed

/-- A list in writing is cut into its items, perhaps with a space before them. -/
theorem Listing.cut_eq_some (listing : Listing) {lead : List Char}
    (space : lead = [] ∨ lead = [' '])
    (reads : window.Reads before (lead ++ (listing.chars ++ (" from ".toList ++ rest)))) :
    ∃ spans,
      Projection.cut window before.length before.length =
        some (spans, (before ++ (lead ++ listing.chars)).length) ∧
      List.Forall₂ (fun span item => window.Spells (window.trimSpan span) item.chars)
        spans listing.items := by
  induction listing generalizing before lead with
  | item only =>
    have split : window.Reads before ((lead ++ only.chars) ++ (" from ".toList ++ rest)) := by
      rw [List.append_assoc]
      exact reads
    have scope : Keyword.scopeOpening.letters <+: (" from ".toList ++ rest).map Char.toLower := by
      rw [List.map_append]
      exact List.prefix_append _ _
    refine ⟨[.between before.length (before ++ (lead ++ only.chars)).length], ?_, ?_⟩
    · rw [Projection.cut_chunk split (only.isWhole space (endsItem_scope rest)),
        Projection.cut_end split.append scope]
      rfl
    · exact .cons (only.spells_trimSpan space reads) .nil
  | more first separator others ih =>
    have ends := endsItem_separator separator (others.chars ++ (" from ".toList ++ rest))
    have here : window.Reads before (lead ++ (first.chars ++
        (separator.chars ++ (others.chars ++ (" from ".toList ++ rest))))) := by
      simpa [Listing.chars] using reads
    have split : window.Reads before ((lead ++ first.chars) ++
        (separator.chars ++ (others.chars ++ (" from ".toList ++ rest)))) := by
      rw [List.append_assoc]
      exact here
    -- the first item is passed over whole and the separator cuts it off; the rest is a list again
    have through : ∀ pivot, Projection.cut window pivot before.length =
        Projection.cut window pivot (before ++ (lead ++ first.chars)).length :=
      fun _ => Projection.cut_chunk split (first.isWhole space ends)
    have spelled := first.spells_trimSpan space here
    have later := split.append
    cases separator with
    | comma =>
      have comma : window.Reads (before ++ (lead ++ first.chars))
          (',' :: ([' '] ++ (others.chars ++ (" from ".toList ++ rest)))) := later
      obtain ⟨spans, found, items⟩ := ih (.inr rfl) comma.tail
      rw [List.length_append, List.length_singleton] at found
      refine ⟨_, ?_, .cons spelled items⟩
      rw [through, Projection.cut_comma comma, found]
      simp [Listing.chars, Separator.chars]
    | word =>
      -- the word could be the list's last if ` from ` followed it, but an item does
      obtain ⟨item, after, follows, opens⟩ := others.exists_first rest
      have goes : ¬ Keyword.scopeOpening.letters <+:
          (' ' :: (others.chars ++ (" from ".toList ++ rest))).map Char.toLower := by
        rw [opens]
        intro begins
        exact item.isWhole (.inr rfl) follows [] _ rfl (by simp) (.inl begins)
      obtain ⟨spans, found, items⟩ := ih (.inl rfl) later.append
      refine ⟨_, ?_, .cons spelled items⟩
      rw [through, Projection.cut_word later goes]
      have size : (before ++ (lead ++ first.chars) ++ Separator.word.chars).length =
          (before ++ (lead ++ first.chars)).length + 5 := List.length_append
      rw [← size, found]
      simp [Listing.chars]

/-! ### Reading an item -/

/-- Whether an item that was read is the one that was written. -/
def Item.IsRead : Item → Projection.Item → Prop
  | .column label, .column found => found.label = label.text
  | .aggregate written, .aggregate call =>
    call.aggregate = written.aggregate ∧
      call.target.map Column.label = written.target.map Label.text
  | _, _ => False

variable {span : Span}

theorem Item.lowerChars_slice (item : Item) (spells : window.Spells span item.chars) :
    Text.lowerChars (window.slice span.start span.stop) = item.chars.map Char.toLower := by
  rw [spells.slice, Text.lowerChars_ascii _ item.ascii]

theorem aggregateCall?_column {label : Label} (spells : window.Spells span label.chars) :
    Projection.aggregateCall? window span = none := by
  have lowered := Item.lowerChars_slice (.column label) spells
  have open' : (label.chars.map Char.toLower).getLast? ≠ some ')' := by
    intro last
    exact absurd (label.isLabelChar_lowered _ (List.mem_of_getLast? last)) (by decide)
  unfold Projection.aggregateCall?
  simp only [lowered, Item.chars]
  rw [if_neg open']

/-- No function's name with its parenthesis begins another one's. -/
theorem eq_of_opening (first second : Aggregate)
    (begins : first.name.toList ++ ['('] <+: second.name.toList ++ ['(']) : first = second := by
  revert begins
  cases first <;> cases second <;> decide

theorem find?_callText (aggregate : Aggregate) (target : List Char) :
    (Aggregate.all.find? fun other =>
      (other.name.toList ++ ['(']).isPrefixOf (callText aggregate target)) = some aggregate := by
  have listed : aggregate ∈ Aggregate.all := by cases aggregate <;> decide
  have opens : callText aggregate target =
      (aggregate.name.toList ++ ['(']) ++ (target ++ [')']) := by
    simp [callText]
  apply find?_eq_some_of_begins eq_of_opening listed
  intro other
  rw [List.isPrefixOf_iff_prefix, opens]

theorem getLast?_callText (aggregate : Aggregate) (target : List Char) :
    (callText aggregate target).getLast? = some ')' := by
  have closes : callText aggregate target =
      (aggregate.name.toList ++ '(' :: target) ++ [')'] := by
    simp [callText]
  rw [closes, List.getLast?_concat]

theorem aggregateCall?_call {call : Call} (spells : window.Spells span call.chars) :
    ∃ target, Projection.aggregateCall? window span = some ⟨call.aggregate, target⟩ ∧
      target.map Column.label = call.target.map Label.text := by
  have lowered := Item.lowerChars_slice (.aggregate call) spells
  rw [Item.chars, call.map_toLower_chars] at lowered
  have size : call.aggregate.name.length = call.name.length := by
    rw [← String.length_toList, ← call.named, List.length_map]
  obtain ⟨before, rest, reads, rfl⟩ := spells
  have inner : window.Reads (before ++ (call.name ++ ['(']))
      ((call.target.map Label.chars).getD [] ++ (')' :: rest)) := by
    apply Window.Reads.append
    simpa [Call.chars] using reads
  have start : before.length + call.aggregate.name.length + 1 =
      (before ++ (call.name ++ ['('])).length := by
    simp [size]
    omega
  have stop : max before.length (before.length + call.chars.length) - 1 =
      (before ++ (call.name ++ ['('])).length +
        ((call.target.map Label.chars).getD []).length := by
    simp [Call.chars]
    omega
  have found : Projection.aggregateCall? window
      (.between before.length (before.length + call.chars.length)) =
        some ⟨call.aggregate,
          let target := window.trimSpan (.between (before ++ (call.name ++ ['('])).length
            ((before ++ (call.name ++ ['('])).length +
              ((call.target.map Label.chars).getD []).length))
          if target.isEmpty then none else some (.ofSpan window target)⟩ := by
    unfold Projection.aggregateCall?
    simp only [lowered, getLast?_callText, if_true, find?_callText, Option.map_some]
    simp only [Span.between, start, stop]
    rfl
  refine ⟨_, found, ?_⟩
  cases targeted : call.target with
  | none =>
    rw [targeted] at inner
    have empty := inner.trimSpan_blank fun b member => absurd member List.not_mem_nil
    simp only [Option.map_none, Option.getD_none] at empty ⊢
    rw [if_pos empty]
    rfl
  | some label =>
    rw [targeted] at inner
    have spelled : window.Spells (.between (before ++ (call.name ++ ['('])).length
        ((before ++ (call.name ++ ['('])).length + label.chars.length)) label.chars :=
      ⟨_, _, inner, rfl⟩
    have visible : (Span.between (before ++ (call.name ++ ['('])).length
        ((before ++ (call.name ++ ['('])).length + label.chars.length)).isEmpty = false :=
      spelled.isEmpty_eq_false label.isTrimmed
    have cut := Window.Reads.trimSpan_self inner label.isTrimmed
    simp only [Option.map_some, Option.getD_some] at cut ⊢
    rw [cut, visible, if_neg Bool.false_ne_true, Option.map_some, Column.ofSpan, spelled.textOf]
    rfl

theorem Item.exists_readItem (item : Item) (extra : List (String × String))
    (spells : window.Spells span item.chars) :
    ∃ found, Projection.readItem (Catalog.standard.withGroups extra) window span = .ok found ∧
      item.IsRead found := by
  cases item with
  | column label =>
    have shown : (Column.ofSpan window span).label = label.text := Window.Spells.textOf spells
    refine ⟨.column (.ofSpan window span), ?_, shown⟩
    simp only [Projection.readItem, aggregateCall?_column spells, label.known_eq_ok extra _ shown]
    rfl
  | aggregate call =>
    obtain ⟨target, found, shown⟩ := aggregateCall?_call spells
    refine ⟨.aggregate ⟨call.aggregate, target⟩, ?_, rfl, shown⟩
    simp only [Projection.readItem, found]
    cases target with
    | none => rfl
    | some column =>
      cases targeted : call.target with
      | none =>
        rw [targeted] at shown
        cases shown
      | some label =>
        rw [targeted, Option.map_some, Option.map_some, Option.some.injEq] at shown
        simp only [label.known_eq_ok extra _ shown]
        rfl

/-! ### Reading a list -/

theorem ofItems_of_isRead {items : List Item} {found : List Projection.Item}
    (shows : List.Forall₂ Item.IsRead items found) :
    (Projection.ofItems found).columns.map Column.label = items.filterMap Item.column? ∧
      (Projection.ofItems found).aggregations.map AggregateCall.content =
        items.filterMap Item.call? := by
  induction shows with
  | nil => exact ⟨rfl, rfl⟩
  | @cons item read items found here _ ih =>
    cases item <;> cases read <;> simp only [Item.IsRead] at here
    · constructor
      · simpa [Projection.ofItems, List.filterMap_cons, Item.column?, here] using ih.1
      · simpa [Projection.ofItems, List.filterMap_cons, Item.call?] using ih.2
    · constructor
      · simpa [Projection.ofItems, List.filterMap_cons, Item.column?] using ih.1
      · simpa [Projection.ofItems, List.filterMap_cons, Item.call?, here,
          AggregateCall.content] using ih.2

/-- Where nothing is asked for, only spaces stand before ` from `. -/
theorem isWhole_space (rest : List Char) :
    Projection.IsWhole [' '] (" from ".toList ++ rest) := by
  intro left right split nonempty
  obtain ⟨rfl, rfl⟩ : left = [] ∧ right = [' '] := by
    cases left with
    | nil => exact ⟨rfl, split.symm⟩
    | cons c left =>
      have length := congrArg List.length split
      have positive := List.length_pos_of_ne_nil nonempty
      simp only [List.length_append, List.length_cons, List.length_nil] at length
      omega
  rintro (scope | ⟨more, comma⟩ | word)
  · exact absurd (List.cons_prefix_cons.mp (List.cons_prefix_cons.mp scope).2).1 (by decide)
  · cases comma
  · exact absurd (List.cons_prefix_cons.mp (List.cons_prefix_cons.mp word).2).1 (by decide)

/-- The list of a question, from the space before it to ` from `. -/
theorem read_listing (listing : Option Listing) (extra : List (String × String))
    (reads : window.Reads before (' ' :: ((listing.map Listing.chars).getD [] ++
      (" from ".toList ++ rest)))) :
    ∃ projection,
      Projection.read (Catalog.standard.withGroups extra) window before.length =
        ⟨.ok projection, (before ++ ' ' :: (listing.map Listing.chars).getD []).length⟩ ∧
      projection.columns.map Column.label =
        ((listing.map Listing.items).getD []).filterMap Item.column? ∧
      projection.aggregations.map AggregateCall.content =
        ((listing.map Listing.items).getD []).filterMap Item.call? := by
  obtain ⟨spans, stop, found, cut, pieces, read, shows⟩ : ∃ spans stop found,
      Projection.cut window before.length before.length = some (spans, stop) ∧
      stop = (before ++ ' ' :: (listing.map Listing.chars).getD []).length ∧
      (Projection.pieces window spans).mapM
        (Projection.readItem (Catalog.standard.withGroups extra) window) = .ok found ∧
      List.Forall₂ Item.IsRead ((listing.map Listing.items).getD []) found := by
    cases listing with
    | none =>
      have spaced : window.Reads before ([' '] ++ (" from ".toList ++ rest)) := reads
      have scope : Keyword.scopeOpening.letters <+: (" from ".toList ++ rest).map Char.toLower := by
        rw [List.map_append]
        exact List.prefix_append _ _
      have empty := spaced.trimSpan_blank Text.isBlank_of_mem_space
      have cut : Projection.cut window before.length before.length = some
          ([.between before.length (before.length + [' '].length)], (before ++ [' ']).length) := by
        rw [Projection.cut_chunk spaced (isWhole_space rest),
          Projection.cut_end spaced.append scope, List.length_append]
      refine ⟨_, _, [], cut, rfl, ?_, .nil⟩
      simp only [Projection.pieces, List.map_cons, List.map_nil, List.filter_cons, empty,
        Bool.not_true, Bool.false_eq_true, if_false, List.filter_nil]
      rfl
    | some listing =>
      have spaced : window.Reads before ([' '] ++ (listing.chars ++ (" from ".toList ++ rest))) :=
        reads
      obtain ⟨spans, cut, spell⟩ := listing.cut_eq_some (.inr rfl) spaced
      have trimmed : List.Forall₂ (fun span item => window.Spells span item.chars)
          (spans.map window.trimSpan) listing.items := by
        rw [List.forall₂_map_left_iff]
        exact spell
      obtain ⟨found, read, shows⟩ :=
        exists_mapM_of_forall₂ (fun _ item spells => item.exists_readItem extra spells) trimmed
      have texts : List.Forall₂ (fun span text => window.Spells (window.trimSpan span) text)
          spans (listing.items.map Item.chars) := by
        rw [List.forall₂_map_right_iff]
        exact spell
      have kept := Window.filter_trimSpan_eq texts fun text member => by
        obtain ⟨item, _, rfl⟩ := List.mem_map.mp member
        exact item.isTrimmed
      exact ⟨spans, _, found, cut, rfl, by rw [Projection.pieces, kept, read], shows⟩
  refine ⟨Projection.ofItems found, ?_, ofItems_of_isRead shows⟩
  rw [Projection.read, cut]
  simp only [read, pieces, Except.map]

end

end FleetQuery.Written
