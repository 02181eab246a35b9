import FleetQuery.Proofs.Recasting.Bodies

/-!
# Marks in a text

A span marks visible text if it is not empty and begins and ends with characters that are not blank.
Trimming leaves such a span or an empty one. Spans are listed if they stand one after another
between two positions, in the order of the list.
-/
namespace FleetQuery

/-- The position after the last visible character. -/
def Text.visibleEnd (chars : List Char) : Nat := (chars.reverse.dropWhile Text.isBlank).length

theorem Text.lt_visibleEnd {chars : List Char} {position : Nat} {c : Char}
    (here : chars[position]? = some c) (visible : isBlank c = false) :
    position < visibleEnd chars := by
  obtain ⟨inside, rfl⟩ := List.getElem?_eq_some_iff.mp here
  -- from the end on no blank but those behind the character is dropped
  have kept : ∀ behind before : List Char, (chars[position] :: before).length ≤
      ((behind ++ chars[position] :: before).dropWhile isBlank).length := by
    intro behind before
    induction behind with
    | nil => simp [visible]
    | cons d behind ih =>
      rw [List.cons_append, List.dropWhile_cons]
      split
      next => exact ih
      next =>
        simp only [List.length_append, List.length_cons]
        omega
  have ends := kept (chars.drop (position + 1)).reverse (chars.take position).reverse
  rw [← List.singleton_append, ← List.append_assoc, ← List.reverse_cons,
    ← List.drop_eq_getElem_cons inside, ← List.reverse_append, List.take_append_drop] at ends
  simp only [List.length_append, List.length_reverse, List.length_take, List.length_singleton]
    at ends
  rw [visibleEnd]
  omega

namespace Span

/-- The characters of a text that a span covers. -/
def charsOf (span : Span) (chars : List Char) : List Char :=
  (chars.drop span.start).take span.length

/-- Whether a span marks visible text. -/
structure Marks (span : Span) (chars : List Char) : Prop where
  nonempty : span.start < span.stop
  inside : span.stop ≤ Text.visibleEnd chars
  first : ∃ c, chars[span.start]? = some c ∧ Text.isBlank c = false
  last : ∃ c, chars[span.stop - 1]? = some c ∧ Text.isBlank c = false

/-- Whether the first span ends before the second one begins. -/
def Before (first second : Span) : Prop := first.stop ≤ second.start

/-- Whether two spans have no character in common. -/
def Apart (first second : Span) : Prop := first.Before second ∨ second.Before first

theorem Apart.symm {first second : Span} (apart : first.Apart second) : second.Apart first :=
  Or.symm apart

def Inside (inner outer : Span) : Prop := outer.start ≤ inner.start ∧ inner.stop ≤ outer.stop

/-- Whether spans stand one after another between two positions. -/
inductive Listed (stop : Nat) : Nat → List Span → Prop where
  | nil {start : Nat} (ordered : start ≤ stop) : Listed stop start []
  | cons {start : Nat} {span : Span} {rest : List Span} (above : start ≤ span.start)
      (later : Listed stop span.stop rest) : Listed stop start (span :: rest)

namespace Listed

variable {start stop : Nat} {spans : List Span}

theorem ordered (listed : Listed stop start spans) : start ≤ stop := by
  induction listed with
  | nil ordered => exact ordered
  | @cons start span rest above later ih => exact above.trans (span.ordered.trans ih)

/-- A span between two positions before the others. -/
theorem cons_between {position : Nat} (ordered : start ≤ position)
    (later : Listed stop position spans) :
    Listed stop start (.between start position :: spans) := by
  have ends : (Span.between start position).stop = position := Nat.max_eq_right ordered
  exact .cons (Nat.le_refl start) (ends.symm ▸ later)

theorem earlier (listed : Listed stop start spans) {before : Nat} (less : before ≤ start) :
    Listed stop before spans := by
  cases listed with
  | nil ordered => exact .nil (less.trans ordered)
  | cons above later => exact .cons (less.trans above) later

theorem further (listed : Listed stop start spans) {after : Nat} (more : stop ≤ after) :
    Listed after start spans := by
  induction listed with
  | nil ordered => exact .nil (ordered.trans more)
  | cons above later ih => exact .cons above ih

theorem append {between : Nat} {others : List Span} (first : Listed between start spans)
    (second : Listed stop between others) : Listed stop start (spans ++ others) := by
  induction first with
  | nil ordered => exact second.earlier ordered
  | cons above later ih => exact .cons above ih

theorem within (listed : Listed stop start spans) :
    ∀ span ∈ spans, start ≤ span.start ∧ span.stop ≤ stop := by
  induction listed with
  | nil => nofun
  | @cons start span rest above later ih =>
    intro other member
    rcases List.mem_cons.mp member with rfl | member
    · exact ⟨above, later.ordered⟩
    · have bounds := ih other member
      exact ⟨above.trans (span.ordered.trans bounds.1), bounds.2⟩

theorem sorted (listed : Listed stop start spans) : spans.Pairwise Before := by
  induction listed with
  | nil => exact .nil
  | cons above later ih => exact .cons (fun other member => (later.within other member).1) ih

theorem sublist (listed : Listed stop start spans) {others : List Span}
    (kept : others.Sublist spans) : Listed stop start others := by
  induction kept generalizing start with
  | slnil => exact listed
  | cons span kept ih =>
    cases listed with
    | cons above later => exact (ih later).earlier (above.trans span.ordered)
  | cons_cons span kept ih =>
    cases listed with
    | cons above later => exact .cons above (ih later)

/-- Spans inside listed ones are listed, where some are left out. -/
theorem filterMap {α : Type} {items : List α} {mark? : α → Option Span}
    (listed : Listed stop start spans)
    (inside : List.Forall₂ (fun span item => ∀ mark ∈ mark? item, mark.Inside span) spans items) :
    Listed stop start (items.filterMap mark?) := by
  induction inside generalizing start with
  | nil => exact .nil listed.ordered
  | @cons span item spans items here others ih =>
    cases listed with
    | cons above later =>
      rw [List.filterMap_cons]
      split
      next => exact (ih later).earlier (above.trans span.ordered)
      next mark marked =>
        have within := here mark marked
        exact .cons (above.trans within.1) ((ih later).earlier within.2)

end Listed
end Span

/-! ### Searching positions -/

theorem searchUp_holds {property : Nat → Bool} {start count found : Nat}
    (result : searchUp property start count = some found) :
    property found = true ∧ ∀ i, start ≤ i → i < found → property i = false := by
  induction count generalizing start with
  | zero => cases result
  | succ count ih =>
    rw [searchUp] at result
    split at result
    next holds =>
      cases result
      exact ⟨holds, fun i above below => absurd above (by omega)⟩
    next fails =>
      have later := ih result
      refine ⟨later.1, ?_⟩
      intro i above below
      by_cases here : i = start
      · rw [here]
        exact (Bool.not_eq_true _).mp fails
      · exact later.2 i (by omega) below

theorem firstIn_holds {property : Nat → Bool} {start stop found : Nat}
    (result : firstIn start stop property = some found) :
    property found = true ∧ ∀ i, start ≤ i → i < found → property i = false :=
  searchUp_holds result

theorem searchDown_holds {property : Nat → Bool} {start count found : Nat}
    (result : searchDown property start count = some found) : property found = true := by
  induction count with
  | zero => cases result
  | succ count ih =>
    rw [searchDown] at result
    split at result
    next holds =>
      cases result
      exact holds
    next => exact ih result

theorem lastIn_holds {property : Nat → Bool} {start stop found : Nat}
    (result : lastIn start stop property = some found) : property found = true :=
  searchDown_holds result

theorem searchDown_fails {property : Nat → Bool} {start count : Nat}
    (result : searchDown property start count = none) :
    ∀ i, start ≤ i → i < start + count → property i = false := by
  induction count with
  | zero => exact fun i above below => absurd above (by omega)
  | succ count ih =>
    rw [searchDown] at result
    split at result
    next => cases result
    next fails =>
      intro i above below
      by_cases here : i = start + count
      · rw [here]
        exact (Bool.not_eq_true _).mp fails
      · exact ih result i above (by omega)

theorem lastIn_fails {property : Nat → Bool} {start stop : Nat}
    (result : lastIn start stop property = none) :
    ∀ i, start ≤ i → i < stop → property i = false :=
  fun i above below => searchDown_fails result i above (by omega)

/-! ### Marks of a window -/

namespace Window

variable {window : Window} {span : Span} {start stop position : Nat}

/-- What is not blank in a text is a visible character. -/
theorem exists_visible (inside : position < window.chars.size)
    (visible : window.blankAt position = false) :
    ∃ c, window.chars.toList[position]? = some c ∧ Text.isBlank c = false := by
  have here : window.chars[position]? = some window.chars[position] :=
    Array.getElem?_eq_getElem inside
  rw [blankAt, here] at visible
  exact ⟨_, by rw [Array.getElem?_toList, here], visible⟩

theorem blankAt_of_visible {c : Char} (here : window.chars.toList[position]? = some c)
    (visible : Text.isBlank c = false) : window.blankAt position = false := by
  rw [Array.getElem?_toList] at here
  rw [blankAt, here]
  exact visible

theorem marks_of_visible (nonempty : span.start < span.stop) (inside : span.stop ≤ window.stop)
    (first : window.blankAt span.start = false) (last : window.blankAt (span.stop - 1) = false) :
    span.Marks window.chars.toList := by
  have size := window.stop_le
  obtain ⟨c, here, visible⟩ := exists_visible (by omega) last
  refine ⟨nonempty, ?_, exists_visible (by omega) first, c, here, visible⟩
  have below := Text.lt_visibleEnd here visible
  omega

theorem slice_eq_charsOf (span : Span) :
    window.slice span.start span.stop = span.charsOf window.chars.toList := by
  rw [slice, Array.toList_extract, List.extract_eq_take_drop]
  rfl

theorem textOf_eq_ofList (span : Span) :
    window.textOf span = String.ofList (span.charsOf window.chars.toList) := by
  rw [textOf, slice_eq_charsOf]

/-- Only blanks are skipped. -/
theorem blankAt_of_lt_skipBlanks (above : start ≤ position)
    (below : position < window.skipBlanks start stop) (inside : position < stop) :
    window.blankAt position = true := by
  rw [skipBlanks] at below
  cases found : firstIn start stop fun i => !window.blankAt i with
  | some next =>
    rw [found] at below
    simpa using (firstIn_holds found).2 position above below
  | none =>
    by_contra visible
    have some : (firstIn start stop fun i => !window.blankAt i).isSome :=
      firstIn_isSome (by simpa using visible) above inside
    rw [found] at some
    cases some

theorem blankAt_skipBlanks (inside : window.skipBlanks start stop < stop) :
    window.blankAt (window.skipBlanks start stop) = false := by
  rw [skipBlanks] at inside ⊢
  cases found : firstIn start stop fun i => !window.blankAt i with
  | some next => simpa using (firstIn_holds found).1
  | none =>
    rw [found, Option.getD_none] at inside
    omega

theorem skipBlanks_of_visible (visible : window.blankAt start = false) (below : start < stop) :
    window.skipBlanks start stop = start := by
  rw [skipBlanks, firstIn_eq_some (by simp [visible])
    (fun i above below => absurd above (by omega)) (Nat.le_refl _) below, Option.getD_some]

/-- Trimming leaves a span inside. -/
theorem trimSpan_inside (window : Window) (span : Span) : (window.trimSpan span).Inside span :=
  ⟨window.le_skipBlanks _ _, trimSpan_stop_le span⟩

/-- What is left of a span marks visible text, if anything is left. -/
theorem marks_trimSpan (inside : span.stop ≤ window.stop)
    (visible : (window.trimSpan span).isEmpty = false) :
    (window.trimSpan span).Marks window.chars.toList := by
  have size := window.stop_le
  have whole : min span.stop window.chars.size = span.stop := by omega
  simp only [trimSpan, whole] at visible ⊢
  cases found : lastIn (window.skipBlanks span.start span.stop) span.stop
    fun i => !window.blankAt i with
  | none => simp [found, Span.isEmpty, Span.between] at visible
  | some last =>
    have bounds := lastIn_bounds found
    have shown := lastIn_holds found
    have first := blankAt_skipBlanks (Nat.lt_of_le_of_lt bounds.1 bounds.2)
    have ends : max (window.skipBlanks span.start span.stop) (last + 1) = last + 1 := by omega
    apply marks_of_visible <;> simp only [Span.between, Option.map_some, Option.getD_some, ends]
    · omega
    · omega
    · exact first
    · simpa using shown

/-- Something is left between two positions only if they are in order, and it stands between
them. -/
theorem trimSpan_between_bounds
    (visible : (window.trimSpan (.between start stop)).isEmpty = false) :
    start < stop ∧ start ≤ (window.trimSpan (.between start stop)).start ∧
      (window.trimSpan (.between start stop)).stop ≤ stop := by
  have trimmed := window.trimSpan_inside (.between start stop)
  have ordered : start < stop := by
    by_contra short
    have empty : (Span.between start stop).start = (Span.between start stop).stop := by
      simp only [Span.between] at short ⊢
      omega
    rw [trimSpan_of_empty empty] at visible
    simp [Span.isEmpty, empty] at visible
  have ends : (Span.between start stop).stop = stop := Nat.max_eq_right (Nat.le_of_lt ordered)
  exact ⟨ordered, trimmed.1, trimmed.2.trans ends.le⟩

theorem marks_trimSpan_between (inside : stop ≤ window.stop)
    (visible : (window.trimSpan (.between start stop)).isEmpty = false) :
    (window.trimSpan (.between start stop)).Marks window.chars.toList := by
  have ordered := (trimSpan_between_bounds visible).1
  have ends : (Span.between start stop).stop = stop := Nat.max_eq_right (Nat.le_of_lt ordered)
  exact marks_trimSpan (ends.le.trans inside) visible

/-- Something is left of a text that begins visibly, from where it begins. -/
theorem trimSpan_of_visible (ordered : start < stop) (inside : stop ≤ window.stop)
    (visible : window.blankAt start = false) :
    (window.trimSpan (.between start stop)).isEmpty = false ∧
      (window.trimSpan (.between start stop)).start = start := by
  have first := skipBlanks_of_visible visible ordered
  rw [trimSpan_between (Nat.le_of_lt ordered) inside, first]
  cases found : lastIn start stop fun i => !window.blankAt i with
  | none =>
    -- the first character is not blank itself
    have blank := lastIn_fails found start (Nat.le_refl _) ordered
    simp [visible] at blank
  | some last =>
    have bounds := lastIn_bounds found
    simp only [Option.map_some, Option.getD_some, Span.isEmpty, Span.between, and_true,
      beq_eq_false_iff_ne]
    omega

end Window

/-- Trimmed spans stay listed, where the empty ones are left out. -/
theorem Span.Listed.trimmed {start stop : Nat} {spans : List Span}
    (listed : Span.Listed stop start spans) (window : Window) :
    Span.Listed stop start
      ((spans.map window.trimSpan).filter fun piece => !piece.isEmpty) := by
  have trimmed : Span.Listed stop start
      (spans.filterMap fun span => some (window.trimSpan span)) := by
    apply listed.filterMap
    rw [List.forall₂_same]
    rintro span _ mark ⟨⟩
    exact window.trimSpan_inside span
  rw [List.filterMap_eq_map'] at trimmed
  exact trimmed.sublist List.filter_sublist

/-- And they mark visible text. -/
theorem Window.marks_of_mem_trimmed {window : Window} {spans : List Span}
    (inside : ∀ span ∈ spans, span.stop ≤ window.stop) :
    ∀ piece ∈ (spans.map window.trimSpan).filter fun piece => !piece.isEmpty,
      piece.Marks window.chars.toList := by
  intro piece member
  obtain ⟨kept, visible⟩ := List.mem_filter.mp member
  obtain ⟨span, listed, rfl⟩ := List.mem_map.mp kept
  exact marks_trimSpan (inside span listed) (by simpa using visible)

end FleetQuery
