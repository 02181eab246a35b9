import FleetQuery.Proofs.Marks.Parts
import FleetQuery.Proofs.Question.Items

/-!
# Cutting the list of items

The reader goes over the list once. It looks for the end of the list and for separators at the same
time, and a separator may share its last blank with the ` from ` that ends the list. Still the list
ends where ` from ` first stands, and its items are the text up to and with that blank, cut at the
separators from left to right. Main statements: `exists_cut_iff`, `pieces_of_cut` and
`read_cuts_at_separators`.
-/
namespace FleetQuery

/-! ### Phrases in a window -/

/-- Whether a phrase stands at a position and ends by `stop`, in any case of its letters. -/
def Window.HasPhrase (window : Window) (phrase : String) (position stop : Nat) : Prop :=
  position + phrase.length ≤ stop ∧
    (window.slice position (position + phrase.length)).map Char.toLower = phrase.toList

instance (window : Window) (phrase : String) (position stop : Nat) :
    Decidable (window.HasPhrase phrase position stop) :=
  inferInstanceAs (Decidable (_ ∧ _))

section

variable {window : Window} {before rest : List Char} {phrase : String}

theorem Window.Reads.hasPhrase_iff (reads : window.Reads before rest) :
    window.HasPhrase phrase before.length window.stop ↔
      phrase.toList <+: rest.map Char.toLower := by
  have stop := reads.stop_eq
  rw [Window.HasPhrase, List.prefix_iff_eq_take, ← List.map_take, String.length_toList, stop]
  constructor
  · rintro ⟨inside, spelled⟩
    have size : (rest.take phrase.length).length = phrase.length := by
      rw [List.length_take]
      omega
    rw [← List.take_append_drop phrase.length rest] at reads
    have cut := reads.slice
    rw [size] at cut
    rw [← cut, spelled]
  · intro spelled
    have size := congrArg List.length spelled
    rw [List.length_map, String.length_toList] at size
    have cut := reads
    rw [← List.take_append_drop phrase.length rest] at cut
    have slice := cut.slice
    rw [← size] at slice
    rw [List.length_take] at size
    exact ⟨by omega, by rw [slice, ← spelled]⟩

theorem Keyword.plain_matchesAt_iff {position : Nat} (plain : (Keyword.plain phrase).isPlain) :
    (Keyword.plain phrase).matchesAt window position = true ↔
      window.HasPhrase phrase position window.stop := by
  by_cases inside : position ≤ window.stop
  · obtain ⟨before, rest, rfl, reads⟩ := window.exists_reads inside
    rw [reads.hasPhrase_iff, matchesAt_iff plain rfl reads]
    rfl
  · constructor
    · intro found
      exact absurd (Nat.le_of_add_right_le (le_stop_of_matchesAt found)) inside
    · rintro ⟨reached, _⟩
      exact absurd (Nat.le_of_add_right_le reached) inside

theorem Window.hasAt_comma_iff {position : Nat} (inside : position < window.stop) :
    window.hasAt position ',' = true ↔ window.HasPhrase "," position window.stop := by
  obtain ⟨before, rest, rfl, reads⟩ := window.exists_reads inside.le
  have stop := reads.stop_eq
  cases rest with
  | nil => simp at stop; omega
  | cons c rest =>
    rw [reads.hasPhrase_iff, reads.hasAt, beq_iff_eq, List.map_cons]
    have lowered := Text.toLower_eq_iff c ',' (by decide) (by decide)
    rw [← lowered, show ",".toList = [','] from rfl, List.cons_prefix_cons,
      and_iff_left List.nil_prefix]
    exact eq_comm

theorem Window.HasPhrase.begins {position stop : Nat}
    (here : window.HasPhrase phrase position stop) :
    phrase.toList <+: (window.chars.toList.drop position).map Char.toLower := by
  rw [← here.2, Window.slice, Array.toList_extract, List.extract_eq_take_drop]
  exact (List.take_prefix _ _).map _

theorem Window.HasPhrase.further {position stop later : Nat}
    (here : window.HasPhrase phrase position stop) (below : stop ≤ later) :
    window.HasPhrase phrase position later :=
  ⟨here.1.trans below, here.2⟩

end

namespace Projection

variable {window : Window}

/-- Whether ` from ` first stands at `stop`, from `position` on. -/
structure EndsFirst (window : Window) (position stop : Nat) : Prop where
  above : position ≤ stop
  opens : window.HasPhrase " from " stop window.stop
  first : ∀ i, position ≤ i → i < stop → ¬ window.HasPhrase " from " i window.stop

/-- Whether a separator stands at `position`, in front of `next` and before `stop`. -/
def SeparatorAt (window : Window) (stop position next : Nat) : Prop :=
  ∃ separator ∈ [",", " and "], window.HasPhrase separator position stop ∧
    next = position + separator.length

/-- The text from a position to `stop`, cut at its separators from left to right. -/
inductive Cuts (window : Window) (stop : Nat) : Nat → List Span → Prop
  | last {position : Nat} (none : ∀ i next, position ≤ i → ¬ SeparatorAt window stop i next) :
    Cuts window stop position [.between position stop]
  | more {position separator next : Nat} {items : List Span} (above : position ≤ separator)
    (first : ∀ i after, position ≤ i → i < separator → ¬ SeparatorAt window stop i after)
    (here : SeparatorAt window stop separator next) (later : Cuts window stop next items) :
    Cuts window stop position (.between position separator :: items)

theorem SeparatorAt.lt {stop position next : Nat} (here : SeparatorAt window stop position next) :
    position < next ∧ next ≤ stop := by
  obtain ⟨separator, listed, inside, rfl⟩ := here
  have positive : 0 < separator.length := by
    simp only [List.mem_cons, List.not_mem_nil, or_false] at listed
    rcases listed with rfl | rfl <;> decide
  exact ⟨by omega, inside.1⟩

/-- Of the two separators only one stands at a place. -/
theorem SeparatorAt.next_unique {stop position next after : Nat}
    (here : SeparatorAt window stop position next) (there : SeparatorAt window stop position after) :
    next = after := by
  obtain ⟨separator, listed, here, rfl⟩ := here
  obtain ⟨other, known, there, rfl⟩ := there
  have free : ∀ first ∈ [",", " and "], ∀ second ∈ [",", " and "],
      first.toList <+: second.toList → first = second := by decide
  rcases List.prefix_or_prefix_of_prefix here.begins there.begins with shorter | longer
  · rw [free _ listed _ known shorter]
  · rw [free _ known _ listed longer]

/-- A text is cut in one way only. -/
theorem Cuts.unique {stop position : Nat} {items others : List Span}
    (cuts : Cuts window stop position items) (again : Cuts window stop position others) :
    items = others := by
  induction cuts generalizing others with
  | last none =>
    cases again with
    | last => rfl
    | more above _ here _ => exact absurd here (none _ _ above)
  | @more position separator next items above first here _ ih =>
    cases again with
    | last none => exact absurd here (none _ _ above)
    | @more _ other after others onwards before there later =>
      -- the first separator is at one place, where only one of the two phrases stands
      have place : separator = other := by
        rcases Nat.lt_trichotomy separator other with less | same | more
        · exact absurd here (before _ _ above less)
        · exact same
        · exact absurd there (first _ _ onwards more)
      subst place
      have behind : next = after := here.next_unique there
      subst behind
      rw [ih later]

/-! ### What the reader looks for -/

theorem endsAt_iff_hasPhrase {position : Nat} :
    endsAt window position = true ↔ window.HasPhrase " from " position window.stop :=
  Keyword.plain_matchesAt_iff (by decide)

theorem separatorAt_iff {stop position next : Nat} (inside : stop ≤ window.stop) :
    SeparatorAt window stop position next ↔ next ≤ stop ∧
      ((window.hasAt position ',' = true ∧ next = position + 1) ∨
        (Keyword.itemSeparator.matchesAt window position = true ∧ next = position + 5)) := by
  have word : Keyword.itemSeparator.matchesAt window position = true ↔
      window.HasPhrase " and " position window.stop := Keyword.plain_matchesAt_iff (by decide)
  have sizes : ",".length = 1 ∧ " and ".length = 5 := by decide
  rw [word, SeparatorAt]
  constructor
  · rintro ⟨separator, listed, here, rfl⟩
    refine ⟨here.1, ?_⟩
    simp only [List.mem_cons, List.not_mem_nil, or_false] at listed
    rcases listed with rfl | rfl
    · have bound := here.1
      exact .inl ⟨(Window.hasAt_comma_iff (by omega)).mpr (here.further inside), by rw [sizes.1]⟩
    · exact .inr ⟨here.further inside, by rw [sizes.2]⟩
  · rintro ⟨below, ⟨comma, rfl⟩ | ⟨joined, rfl⟩⟩
    · have here := (Window.hasAt_comma_iff (by omega)).mp comma
      exact ⟨",", by simp, ⟨below, here.2⟩, by rw [sizes.1]⟩
    · exact ⟨" and ", by simp, ⟨below, joined.2⟩, by rw [sizes.2]⟩

/-- No separator stands where the list ends. -/
theorem not_separatorAt_of_endsAt {stop position next : Nat}
    (ends : endsAt window position = true) : ¬ SeparatorAt window stop position next := by
  rintro ⟨separator, listed, here, _⟩
  have apart : ∀ separator ∈ [",", " and "],
      ¬ separator.toList <+: " from ".toList ∧ ¬ " from ".toList <+: separator.toList := by decide
  rcases List.prefix_or_prefix_of_prefix here.begins (endsAt_iff_hasPhrase.mp ends).begins with
    shorter | longer
  · exact (apart _ listed).1 shorter
  · exact (apart _ listed).2 longer

/-- No ` from ` begins within a separator, unless it shares the last blank. -/
theorem not_endsAt_of_separator {position : Nat}
    (joined : Keyword.itemSeparator.matchesAt window position = true)
    (goes : ¬ endsAt window position = true) :
    ∀ i, position ≤ i → i < afterSeparator window position → ¬ endsAt window i = true := by
  intro i above below ends
  -- ` from ` begins with a blank, and ` and ` has blanks at its two ends only
  have blanks : ∀ ahead (inside : ahead < Keyword.itemSeparator.letters.length),
      Text.isBlank Keyword.itemSeparator.letters[ahead] = true → ahead = 0 ∨ ahead = 4 := by decide
  have opens := Keyword.blankAt_of_head (by decide) rfl ends
  obtain ⟨ahead, rfl⟩ := Nat.exists_eq_add_of_le above
  have inside : ahead < Keyword.itemSeparator.letters.length := by
    have size : Keyword.itemSeparator.letters.length = 5 := rfl
    rw [afterSeparator] at below
    split at below <;> omega
  rw [Keyword.blankAt_letter (by decide) joined inside] at opens
  rcases blanks ahead inside opens with rfl | rfl
  · exact goes ends
  · rw [afterSeparator, if_pos ends] at below
    exact Nat.lt_irrefl _ below

theorem EndsFirst.lt_stop {position stop : Nat} (ends : EndsFirst window position stop) :
    stop < window.stop := by
  have inside := ends.opens.1
  have positive : 0 < " from ".length := by decide
  omega

/-- Where ` from ` stands at all it stands somewhere first. -/
theorem exists_endsFirst {position stop : Nat} (above : position ≤ stop)
    (opens : window.HasPhrase " from " stop window.stop) :
    ∃ first, EndsFirst window position first := by
  have some : ∃ stop, position ≤ stop ∧ window.HasPhrase " from " stop window.stop :=
    ⟨stop, above, opens⟩
  exact ⟨Nat.find some, (Nat.find_spec some).1, (Nat.find_spec some).2, fun i onwards before here =>
    Nat.find_min some before ⟨onwards, here⟩⟩

theorem EndsFirst.later_iff {position next stop : Nat} (above : position ≤ next)
    (none : ∀ i, position ≤ i → i < next → ¬ endsAt window i = true) :
    EndsFirst window next stop ↔ EndsFirst window position stop := by
  simp only [endsAt_iff_hasPhrase] at none
  constructor
  · rintro ⟨behind, opens, first⟩
    refine ⟨above.trans behind, opens, fun i onwards before => ?_⟩
    by_cases early : i < next
    · exact none i onwards early
    · exact first i (Nat.not_lt.mp early) before
  · rintro ⟨behind, opens, first⟩
    refine ⟨?_, opens, fun i onwards before => first i (above.trans onwards) before⟩
    by_contra early
    exact none stop behind (Nat.not_le.mp early) opens

/-- The list ends where ` from ` first stands. -/
theorem exists_cut_iff (window : Window) (pivot position stop : Nat) :
    (∃ items, cut window pivot position = some (items, stop)) ↔ EndsFirst window position stop := by
  -- each way to go on leaves only places behind at which the list does not end
  fun_induction cut window pivot position with
  | case1 pivot position finished =>
    simp only [reduceCtorEq, exists_false, false_iff]
    rintro ⟨above, ⟨inside, _⟩, _⟩
    have positive : 0 < " from ".length := by decide
    omega
  | case2 pivot position going ends =>
    constructor
    · rintro ⟨items, found⟩
      cases found
      exact ⟨Nat.le_refl _, endsAt_iff_hasPhrase.mp ends, fun i above below => by omega⟩
    · rintro ⟨above, _, first⟩
      have here : position = stop := by
        by_contra later
        exact first position (Nat.le_refl _) (by omega) (endsAt_iff_hasPhrase.mp ends)
      exact ⟨_, by rw [here]⟩
  | case3 pivot position going goes comma ih =>
    rw [← EndsFirst.later_iff (Nat.le_succ position), ← ih]
    · simp
    · intro i above below
      rwa [Nat.le_antisymm (Nat.lt_succ_iff.mp below) above]
  | case4 pivot position going goes plain joined next ih =>
    rw [← EndsFirst.later_iff (lt_afterSeparator window position).le
      (not_endsAt_of_separator joined goes), ← ih]
    simp
  | case5 pivot position going goes plain whole ih =>
    rw [ih, EndsFirst.later_iff (Nat.le_succ position)]
    intro i above below
    rwa [Nat.le_antisymm (Nat.lt_succ_iff.mp below) above]

/-! ### Pieces -/

theorem pieces_cons (item : Span) (items : List Span) :
    pieces window (item :: items) = pieces window [item] ++ pieces window items :=
  List.filter_append [window.trimSpan item] (items.map window.trimSpan)

theorem pieces_of_empty (window : Window) (position : Nat) :
    pieces window [.between position position] = [] := by
  have nothing : window.trimSpan (.between position position) = .between position position :=
    Window.trimSpan_of_empty (Nat.max_self position).symm
  have empty : (Span.between position position).isEmpty = true := by
    simp [Span.isEmpty, Span.between]
  simp [pieces, nothing, empty]

/-- A blank behind a piece is trimmed away. -/
theorem pieces_before_blank {pivot stop : Nat} (ordered : pivot ≤ stop) (inside : stop < window.stop)
    (blank : window.blankAt stop = true) :
    pieces window [.between pivot (stop + 1)] = pieces window [.between pivot stop] := by
  obtain ⟨before, rest, rfl, reads⟩ := window.exists_reads (ordered.trans inside.le)
  obtain ⟨chunk, b, more, rfl, size⟩ : ∃ chunk b more, rest = chunk ++ b :: more ∧
      stop = before.length + chunk.length := by
    have length := reads.stop_eq
    have within : stop - before.length < rest.length := by omega
    refine ⟨rest.take (stop - before.length), rest[stop - before.length],
      rest.drop (stop - before.length + 1), ?_, ?_⟩
    · rw [← List.drop_eq_getElem_cons within, List.take_append_drop]
    · rw [List.length_take]
      omega
  have seen := reads.append.blankAt
  rw [List.length_append, ← size, blank] at seen
  subst size
  -- a piece of blanks only leaves nothing either way
  by_cases visible : ∃ c ∈ chunk, Text.isBlank c = false
  · obtain ⟨lead, text, trail, rfl, leading, trimmed, trailing⟩ := Text.exists_trimmed visible
    have short : window.Reads before (lead ++ (text ++ (trail ++ b :: more))) := by
      simpa using reads
    have long : window.Reads before (lead ++ (text ++ ((trail ++ [b]) ++ more))) := by
      simpa using reads
    have whole := short.trimSpan leading trimmed trailing
    have wider := long.trimSpan leading trimmed (by simpa [or_imp, forall_and] using
      ⟨trailing, seen.symm⟩)
    simp only [List.length_append, List.length_singleton, ← Nat.add_assoc] at whole wider ⊢
    simp only [pieces, List.map_cons, List.map_nil, whole, wider]
  · have blanks : ∀ c ∈ chunk, Text.isBlank c = true := by
      intro c member
      by_contra shown
      exact visible ⟨c, member, by simpa using shown⟩
    have long : window.Reads before ((chunk ++ [b]) ++ more) := by simpa using reads
    have whole := reads.trimSpan_blank blanks
    have wider := long.trimSpan_blank (by simpa [or_imp, forall_and] using ⟨blanks, seen.symm⟩)
    simp only [List.length_append, List.length_singleton, ← Nat.add_assoc] at wider
    simp [pieces, whole, wider]

/-- The items that the reader cuts leave the pieces of the text up to and with the blank that ends the
list. -/
theorem pieces_of_cut (window : Window) (pivot position : Nat) (ordered : pivot ≤ position) :
    ∀ items stop, cut window pivot position = some (items, stop) →
      (∀ i next, pivot ≤ i → i < position → ¬ SeparatorAt window (stop + 1) i next) →
        ∃ spans, Cuts window (stop + 1) pivot spans ∧ pieces window spans = pieces window items := by
  -- the invariant: no separator stands between the beginning of the item and the cursor
  fun_induction cut window pivot position with
  | case1 =>
    intro items stop found
    cases found
  | case2 pivot position going ends =>
    intro items stop found whole
    cases found
    have blank := Keyword.blankAt_of_head (by decide) rfl ends
    refine ⟨_, .last ?_, pieces_before_blank ordered (Nat.not_le.mp going) (blank.trans rfl)⟩
    intro i next above here
    have room := here.lt
    by_cases before : i < position
    · exact whole i next above before here
    · have same : i = position := by omega
      exact not_separatorAt_of_endsAt ends (same ▸ here)
  | case3 pivot position going goes comma ih =>
    intro items stop found whole
    obtain ⟨⟨others, _⟩, later, same⟩ := Option.map_eq_some_iff.mp found
    cases same
    have ends := (exists_cut_iff window _ _ _).mp ⟨others, later⟩
    have above := ends.above
    have bound := ends.lt_stop
    obtain ⟨spans, cuts, left⟩ := ih (Nat.le_refl _) others stop later
      fun i next above below => absurd below (Nat.not_lt.mpr above)
    refine ⟨.between pivot position :: spans, .more ordered whole ?_ cuts, ?_⟩
    · exact (separatorAt_iff (by omega)).mpr ⟨by omega, .inl ⟨comma, rfl⟩⟩
    · rw [pieces_cons, left, ← pieces_cons]
  | case4 pivot position going goes plain joined next ih =>
    intro items stop found whole
    obtain ⟨⟨others, _⟩, later, same⟩ := Option.map_eq_some_iff.mp found
    cases same
    have ends := (exists_cut_iff window _ _ _).mp ⟨others, later⟩
    have above := ends.above
    have bound := ends.lt_stop
    by_cases shared : endsAt window (position + 4) = true
    · -- the separator takes the last blank, and nothing is left behind it
      have here : next = position + 4 := if_pos shared
      rw [here, cut, if_neg (by omega), if_pos shared] at later
      cases later
      refine ⟨[.between pivot position, .between (position + 5) (position + 5)],
        .more ordered whole ?_ (.last ?_), ?_⟩
      · exact (separatorAt_iff (by omega)).mpr ⟨by omega, .inr ⟨joined, rfl⟩⟩
      · intro i after behind within
        have room := within.lt
        omega
      · rw [pieces_cons _ [.between (position + 5) (position + 5)], pieces_of_empty,
          pieces_cons _ [.between (position + 4) (position + 4)], pieces_of_empty]
    · have here : next = position + 5 := if_neg shared
      rw [here] at later ih above
      obtain ⟨spans, cuts, left⟩ := ih (Nat.le_refl _) others stop later
        fun i next above below => absurd below (Nat.not_lt.mpr above)
      refine ⟨.between pivot position :: spans, .more ordered whole ?_ cuts, ?_⟩
      · exact (separatorAt_iff (by omega)).mpr ⟨by omega, .inr ⟨joined, rfl⟩⟩
      · rw [pieces_cons, left, ← pieces_cons]
  | case5 pivot position going goes plain joined ih =>
    intro items stop found whole
    refine ih (by omega) items stop found ?_
    intro i next above below here
    by_cases before : i < position
    · exact whole i next above before here
    · have same : i = position := by omega
      have bound := ((exists_cut_iff window _ _ _).mp ⟨items, found⟩).lt_stop
      obtain ⟨_, ⟨comma, _⟩ | ⟨word, _⟩⟩ := (separatorAt_iff (by omega)).mp here
      · exact plain (same ▸ comma)
      · exact joined (same ▸ word)

/-! ### Reading the pieces -/

variable {catalog : Catalog} {piece : Span}

/-- A piece is refused for the column that it names. -/
theorem readItem_refused {error : ParseError}
    (failed : readItem catalog window piece = .error error) :
    ∃ column ∈ (itemOf window piece).column?, catalog.field? column.label = none ∧
      error.kind = .unknownField ∧ error.span = column.span := by
  have refused : ∀ (column : Column) cause, cause.kind = .unknownField →
      column.known window catalog cause = .error error → catalog.field? column.label = none ∧
        error.kind = .unknownField ∧ error.span = column.span := by
    intro column cause kind unknown
    obtain ⟨absent, rfl⟩ := Column.known_eq_error_iff.mp unknown
    exact ⟨absent, kind, rfl⟩
  rw [readItem] at failed
  rw [itemOf]
  cases found : aggregateCall? window piece with
  | none =>
    rw [found] at failed
    exact ⟨_, rfl, refused _ _ rfl ((map_eq_error_iff _ _ _).mp failed)⟩
  | some call =>
    simp only [found] at failed
    cases targeted : call.target with
    | none =>
      rw [targeted] at failed
      cases failed
    | some target =>
      rw [targeted] at failed
      refine ⟨target, targeted, refused _ _ ?_ ((map_eq_error_iff _ _ _).mp failed)⟩
      rw [unknownTarget]
      split <;> rfl

theorem ofItems_itemOf (window : Window) (pieces : List Span) :
    ofItems (pieces.map (itemOf window)) =
      ⟨(pieces.filter fun piece => (aggregateCall? window piece).isNone).map (.ofSpan window),
        pieces.filterMap (aggregateCall? window)⟩ := by
  induction pieces with
  | nil => rfl
  | cons piece rest ih =>
    simp only [ofItems, Projection.mk.injEq] at ih ⊢
    rw [List.map_cons, List.filterMap_cons, List.filterMap_cons, List.filter_cons,
      List.filterMap_cons, ih.1, ih.2]
    cases found : aggregateCall? window piece <;> simp [itemOf, found]

/-- What is read from pieces: all of them in their order, or an error at the first that names a column
which the catalog does not know. -/
theorem mapM_readItem (catalog : Catalog) (window : Window) (pieces : List Span) :
    ((∀ piece ∈ pieces, (itemOf window piece).Resolved catalog) ∧
      pieces.mapM (readItem catalog window) = .ok (pieces.map (itemOf window))) ∨
    ∃ before piece after, pieces = before ++ piece :: after ∧
      (∀ earlier ∈ before, (itemOf window earlier).Resolved catalog) ∧
      ∃ column ∈ (itemOf window piece).column?, catalog.field? column.label = none ∧
        ∃ error, pieces.mapM (readItem catalog window) = .error error ∧
          error.kind = .unknownField ∧ error.span = column.span := by
  cases traversed : pieces.mapM (readItem catalog window) with
  | ok items =>
    have resolved : ∀ piece ∈ pieces, (itemOf window piece).Resolved catalog := by
      intro piece member
      obtain ⟨item, _, read⟩ := mapM_of_mem traversed member
      exact (readItem_eq_ok_iff.mp read).2
    have whole := mapM_eq_ok_map (readItem catalog window) (itemOf window) pieces
      fun piece member => readItem_eq_ok_iff.mpr ⟨rfl, resolved piece member⟩
    exact .inl ⟨resolved, traversed.symm.trans whole⟩
  | error error =>
    obtain ⟨before, piece, after, split, earlier, failed⟩ :=
      (mapM_eq_error_iff _ _ _).mp traversed
    obtain ⟨column, named, unknown, kind, place⟩ := readItem_refused failed
    refine .inr ⟨before, piece, after, split, fun one member => ?_, column, named, unknown, error,
      rfl, kind, place⟩
    obtain ⟨item, read⟩ := earlier one member
    exact (readItem_eq_ok_iff.mp read).2

/-- No error about an unknown field has another message. -/
theorem message_of_unknownField {cause : ParseError.Cause} (kind : cause.kind = .unknownField) :
    cause.message ≠ ParseError.Cause.missingFrom.message := by
  have begins : ∀ opening label : String, opening.toList.head? = some 'U' →
      (opening ++ label ++ "'").toList.head? = some 'U' := by
    intro opening label first
    rw [String.toList_append, String.toList_append, List.append_assoc, List.head?_append, first]
    rfl
  -- the messages differ in their first letter already
  have opens : cause.message.toList.head? = some 'U' := by
    cases cause with
    | unknownColumn label => exact begins "Unknown field '" label (by decide)
    | unknownCountColumn label => exact begins "Unknown count column '" label (by decide)
    | unknownAggregateColumn label => exact begins "Unknown aggregation column '" label (by decide)
    | unknownGroupColumn label => exact begins "Unknown group by column '" label (by decide)
    | unknownOrderColumn label => exact begins "Unknown order by column '" label (by decide)
    | unknownFilterColumn label => exact begins "Unknown field '" label (by decide)
    | _ => cases kind
  intro same
  rw [same] at opens
  exact absurd opens (by decide)

/-- The list is refused for want of a scope if and only if ` from ` stands nowhere from the cursor to
the end of the question. Otherwise, where it first stands, the text up to and with its first blank
is cut at the commas and the words `and` between blanks, and its pieces are read in their order, up to
the blank; or there is an error at the first piece, or argument of a call, that is no column. -/
theorem read_cuts_at_separators (catalog : Catalog) (window : Window) (position : Nat) :
    ((∃ error, (read catalog window position).outcome = .error error ∧
        error.message = "Include a scope using 'from'.") ↔
      ∀ stop, position ≤ stop → ¬ window.HasPhrase " from " stop window.stop) ∧
    ∀ stop, EndsFirst window position stop → ∃ items,
      (∀ others, Cuts window (stop + 1) position others ↔ others = items) ∧
      (((∀ piece ∈ pieces window items, (itemOf window piece).Resolved catalog) ∧
        read catalog window position =
          ⟨.ok ⟨((pieces window items).filter fun piece =>
              (aggregateCall? window piece).isNone).map (.ofSpan window),
            (pieces window items).filterMap (aggregateCall? window)⟩, stop⟩) ∨
      ∃ before piece after, pieces window items = before ++ piece :: after ∧
        (∀ earlier ∈ before, (itemOf window earlier).Resolved catalog) ∧
        ∃ column ∈ (itemOf window piece).column?, catalog.field? column.label = none ∧
          ∃ error, (read catalog window position).outcome = .error error ∧
            error.kind = .unknownField ∧ error.span = column.span) := by
  have listed : ∀ stop, EndsFirst window position stop → ∃ items,
      (∀ others, Cuts window (stop + 1) position others ↔ others = items) ∧
      read catalog window position =
        ⟨((pieces window items).mapM (readItem catalog window)).map ofItems, stop⟩ := by
    intro stop ends
    obtain ⟨found, cutting⟩ := (exists_cut_iff window position position stop).mpr ends
    obtain ⟨items, cuts, same⟩ := pieces_of_cut window position position (Nat.le_refl _) found stop
      cutting fun i next above below => absurd below (Nat.not_lt.mpr above)
    refine ⟨items, fun others => ⟨fun again => again.unique cuts, fun same => same ▸ cuts⟩, ?_⟩
    rw [read, cutting, same]
  refine ⟨⟨?_, ?_⟩, ?_⟩
  · rintro ⟨error, failed, message⟩ stop above opens
    obtain ⟨first, ends⟩ := exists_endsFirst above opens
    obtain ⟨items, _, reading⟩ := listed first ends
    rw [reading] at failed
    -- the only error that is left is about an unknown field
    rcases mapM_readItem catalog window (pieces window items) with
      ⟨_, traversed⟩ | ⟨_, _, _, _, _, _, _, _, other, refused, kind, _⟩
    · rw [traversed] at failed
      cases failed
    · rw [refused] at failed
      cases failed
      exact message_of_unknownField kind message
  · intro absent
    cases found : cut window position position with
    | none => exact ⟨_, by rw [read, found], rfl⟩
    | some cutting =>
      have ends := (exists_cut_iff window position position cutting.2).mp ⟨cutting.1, found⟩
      exact absurd ends.opens (absent _ ends.above)
  · intro stop ends
    obtain ⟨items, cuts, reading⟩ := listed stop ends
    refine ⟨items, cuts, ?_⟩
    rw [reading]
    rcases mapM_readItem catalog window (pieces window items) with
      ⟨resolved, traversed⟩ |
        ⟨before, piece, after, split, earlier, column, named, unknown, error, refused, place⟩
    · refine .inl ⟨resolved, ?_⟩
      rw [traversed, ← ofItems_itemOf]
      rfl
    · refine .inr ⟨before, piece, after, split, earlier, column, named, unknown, error, ?_, place⟩
      rw [refused]
      rfl

/-- The last `and` of a list may share its blank with ` from `. -/
theorem read_cuts_at_separators_sample :
    EndsFirst (Window.ofText "Get role, count() and from all") 4 21 ∧
    (∃ items, Cuts (Window.ofText "Get role, count() and from all") 22 4 items) ∧
    (read .standard (Window.ofText "Get role, count() and from all") 4).outcome =
      .ok ⟨[⟨"role", .between 4 8⟩], [⟨.count, none⟩]⟩ := by
  have absent : ∀ i < 21, ¬ (Window.ofText "Get role, count() and from all").HasPhrase " from " i
      (Window.ofText "Get role, count() and from all").stop := by decide +kernel
  have ends : EndsFirst (Window.ofText "Get role, count() and from all") 4 21 :=
    ⟨by decide, by decide +kernel, fun i _ below => absent i below⟩
  obtain ⟨items, cuts, _⟩ :=
    (read_cuts_at_separators .standard (Window.ofText "Get role, count() and from all") 4).2 21 ends
  exact ⟨ends, ⟨items, (cuts items).mpr rfl⟩, by decide +kernel⟩

end Projection
end FleetQuery
