import FleetQuery.Proofs.Marks.Spans

/-!
# Scanners that check their bounds

The scanners once more, as they look at the characters one by one: here a character that is asked
for outside the text, and a cursor that would go back or past the end of the window, is an outcome
of its own, `none`. Each lemma says that a scanner asks for nothing of the kind and finds what the
unchecked one finds. Main statements: `matchesAt_eq`, `trimSpan_eq`, `segmentEnd_eq` and `take_eq`.
-/
namespace FleetQuery.Guarded

/-! ### Searches -/

/-- The first of `count` positions from `start` on that has a property. -/
def searchUp (property : Nat → Option Bool) (start : Nat) : Nat → Option (Option Nat)
  | 0 => some none
  | count + 1 => do
    if ← property start then some (some start) else searchUp property (start + 1) count

/-- The last of `count` positions from `start` on that has a property. -/
def searchDown (property : Nat → Option Bool) (start : Nat) : Nat → Option (Option Nat)
  | 0 => some none
  | count + 1 => do
    if ← property (start + count) then some (some (start + count))
    else searchDown property start count

def firstIn (start stop : Nat) (property : Nat → Option Bool) : Option (Option Nat) :=
  searchUp property start (stop - start)

def lastIn (start stop : Nat) (property : Nat → Option Bool) : Option (Option Nat) :=
  searchDown property start (stop - start)

section

variable {property : Nat → Option Bool} {known : Nat → Bool} {start stop count : Nat}

theorem searchUp_eq (answers : ∀ i, start ≤ i → i < start + count → property i = some (known i)) :
    searchUp property start count = some (FleetQuery.searchUp known start count) := by
  -- on the number of positions that are left: the first one is gone with each step
  induction count generalizing start with
  | zero => rfl
  | succ count ih =>
    have later : searchUp property (start + 1) count =
        some (FleetQuery.searchUp known (start + 1) count) :=
      ih fun i above below => answers i (by omega) (by omega)
    rw [searchUp, FleetQuery.searchUp, answers start (Nat.le_refl start) (by omega)]
    cases known start <;> simp [later]

theorem searchDown_eq
    (answers : ∀ i, start ≤ i → i < start + count → property i = some (known i)) :
    searchDown property start count = some (FleetQuery.searchDown known start count) := by
  induction count with
  | zero => rfl
  | succ count ih =>
    have later := ih fun i above below => answers i above (by omega)
    rw [searchDown, FleetQuery.searchDown, answers (start + count) (by omega) (by omega)]
    cases known (start + count) <;> simp [later]

theorem firstIn_eq (answers : ∀ i, start ≤ i → i < stop → property i = some (known i)) :
    firstIn start stop property = some (FleetQuery.firstIn start stop known) :=
  searchUp_eq fun i above below => answers i above (by omega)

theorem lastIn_eq (answers : ∀ i, start ≤ i → i < stop → property i = some (known i)) :
    lastIn start stop property = some (FleetQuery.lastIn start stop known) :=
  searchDown_eq fun i above below => answers i above (by omega)

end

/-! ### Characters -/

variable {window : Window} {start stop position : Nat}

def blankAt (window : Window) (position : Nat) : Option Bool :=
  window.chars[position]?.map Text.isBlank

def hasAt (window : Window) (position : Nat) (c : Char) : Option Bool :=
  window.chars[position]?.map (· == c)

theorem blankAt_eq (inside : position < window.chars.size) :
    blankAt window position = some (window.blankAt position) := by
  simp [blankAt, Window.blankAt, inside]

/-- Loops that end with the text look for blanks in it only. -/
theorem blankAt_below (inside : stop ≤ window.chars.size) :
    ∀ i, start ≤ i → i < stop → blankAt window i = some (window.blankAt i) :=
  fun _ _ below => blankAt_eq (Nat.lt_of_lt_of_le below inside)

theorem hasAt_eq (inside : position < window.chars.size) (c : Char) :
    hasAt window position c = some (window.hasAt position c) := by
  simp [hasAt, Window.hasAt, inside]

/-- The characters between two positions that are in order and inside the text. -/
def slice (window : Window) (start stop : Nat) : Option (List Char) :=
  if start ≤ stop ∧ stop ≤ window.chars.size then some (window.slice start stop) else none

/-- The characters between two positions, the second of which is held back at the end of the text.
There are none if the positions are out of order then. -/
def chars (window : Window) (start stop : Nat) : Option (List Char) :=
  let held := min stop window.chars.size
  if held ≤ start then some [] else slice window start held

theorem chars_eq (window : Window) (start stop : Nat) :
    chars window start stop = some (window.slice start stop) := by
  simp only [chars]
  split
  next short => simp [Window.slice, Array.extract_eq_empty_of_le short]
  next long =>
    -- behind the end of the text there is nothing to take either
    rw [slice, if_pos (by omega), Window.slice, Window.slice, Array.extract_eq_extract_right.mpr]
    omega

def textOf (window : Window) (span : Span) : Option String :=
  (chars window span.start span.stop).map String.ofList

theorem textOf_eq (window : Window) (span : Span) :
    textOf window span = some (window.textOf span) := by
  rw [textOf, chars_eq, Window.textOf, Option.map_some]

def locate (window : Window) (cause : ParseError.Cause) (span : Span) : Option ParseError :=
  (textOf window span).map fun text => ⟨cause, span, text⟩

theorem locate_eq (window : Window) (cause : ParseError.Cause) (span : Span) :
    locate window cause span = some (.locate window cause span) := by
  rw [locate, textOf_eq, ParseError.locate, Option.map_some]

/-! ### Blanks and moves -/

/-- The first position in `[position, stop)` without a blank, or the end. -/
def skipBlanks (window : Window) (position stop : Nat) : Option Nat := do
  let next ← firstIn position stop fun i => (blankAt window i).map (!·)
  return next.getD (max position stop)

theorem skipBlanks_eq (inside : stop ≤ window.chars.size) :
    skipBlanks window position stop = some (window.skipBlanks position stop) := by
  have answers : ∀ i, position ≤ i → i < stop →
      (blankAt window i).map (!·) = some (!window.blankAt i) := fun i above below => by
    rw [blankAt_below inside i above below, Option.map_some]
  simp [skipBlanks, Window.skipBlanks, firstIn_eq answers]

def trimSpan (window : Window) (span : Span) : Option Span := do
  let stop := min span.stop window.chars.size
  let start ← skipBlanks window span.start stop
  let last ← lastIn start stop fun i => (blankAt window i).map (!·)
  return .between start ((last.map (· + 1)).getD start)

theorem trimSpan_eq (window : Window) (span : Span) :
    trimSpan window span = some (window.trimSpan span) := by
  -- a span may go on behind the text, but neither search does
  have inside : min span.stop window.chars.size ≤ window.chars.size := Nat.min_le_right ..
  have answers : ∀ i, window.skipBlanks span.start (min span.stop window.chars.size) ≤ i →
      i < min span.stop window.chars.size →
        (blankAt window i).map (!·) = some (!window.blankAt i) := fun i above below => by
    rw [blankAt_below inside i above below, Option.map_some]
  simp [trimSpan, Window.trimSpan, skipBlanks_eq inside, lastIn_eq answers]

/-- The cursor at a new position, which is not before the old one nor past the end. -/
def moveTo (window : Window) (position target : Nat) : Option Nat :=
  if position ≤ target ∧ target ≤ window.stop then some target else none

def jump (window : Window) (position ahead : Nat) : Option Nat :=
  moveTo window position (window.jump position ahead)

def jumpTo (window : Window) (position target : Nat) : Option Nat :=
  moveTo window position (window.jumpTo target)

def advance (window : Window) (position : Nat) : Option Nat :=
  moveTo window position (window.advance position)

def skipAhead (window : Window) (position : Nat) : Option Nat := do
  moveTo window position (← skipBlanks window position window.stop)

theorem jump_eq (inside : position ≤ window.stop) (ahead : Nat) :
    jump window position ahead = some (window.jump position ahead) := by
  rw [jump, moveTo, Window.jump, if_pos (by omega)]

theorem jumpTo_eq {target : Nat} (inside : position ≤ window.stop) (onward : position ≤ target) :
    jumpTo window position target = some (window.jumpTo target) := by
  rw [jumpTo, moveTo, Window.jumpTo, if_pos (by omega)]

theorem advance_eq (inside : position < window.stop) :
    advance window position = some (position + 1) := by
  rw [advance, moveTo, Window.advance, if_pos inside, if_pos (by omega)]

theorem skipAhead_eq (inside : position ≤ window.stop) :
    skipAhead window position = some (window.skipAhead position) := by
  have onward := window.le_skipBlanks position window.stop
  have held : window.skipBlanks position window.stop ≤ window.stop := Window.skipBlanks_le inside
  rw [skipAhead, skipBlanks_eq window.stop_le]
  simp [moveTo, Window.skipAhead, onward, held]

/-! ### Keywords -/

/-- Whether the characters from `position` on fit the letters. -/
def spells (chars : Array Char) (position : Nat) : List Char → Option Bool
  | [] => some true
  | letter :: rest => do
    let c ← chars[position]?
    if Text.lowerChar c == [letter] then spells chars (position + 1) rest else some false

theorem spells_eq {chars : Array Char} {letters : List Char} {position : Nat}
    (inside : position + letters.length ≤ chars.size) :
    spells chars position letters = some (Keyword.spells chars position letters) := by
  -- the letters that are left fit into the characters that are left
  induction letters generalizing position with
  | nil => rfl
  | cons letter rest ih =>
    rw [List.length_cons] at inside
    have here : position < chars.size := by omega
    have later : spells chars (position + 1) rest =
        some (Keyword.spells chars (position + 1) rest) := ih (by omega)
    simp only [spells, Keyword.spells, Array.getElem?_eq_getElem here, Option.bind_eq_bind,
      Option.bind_some, later]
    split <;> simp_all

/-- Whether the keyword stands at `position`. -/
def matchesAt (keyword : Keyword) (window : Window) (position : Nat) : Option Bool :=
  if window.stop < position + keyword.length then some false
  else do
    if ← spells window.chars position keyword.letters then
      if keyword.reachesEnd window position then some (keyword.endAfter || !keyword.blankAfter)
      else if keyword.blankAfter then blankAt window (position + keyword.length)
      else some true
    else some false

theorem matchesAt_eq (keyword : Keyword) (window : Window) (position : Nat) :
    matchesAt keyword window position = some (keyword.matchesAt window position) := by
  have within := window.stop_le
  unfold matchesAt Keyword.matchesAt
  split
  next short => simp [show ¬ position + keyword.length ≤ window.stop by omega]
  next long =>
    have fits : position + keyword.length ≤ window.stop := Nat.not_lt.mp long
    have spelled : spells window.chars position keyword.letters =
        some (Keyword.spells window.chars position keyword.letters) :=
      spells_eq (Nat.le_trans fits within)
    simp only [spelled, fits, Option.bind_eq_bind, Option.bind_some, decide_true, Bool.true_and]
    cases Keyword.spells window.chars position keyword.letters with
    | false => simp
    | true =>
      by_cases reaches : keyword.reachesEnd window position = true
      · simp [reaches, Bool.or_comm]
      · -- the character behind the keyword is still in the window
        have behind : position + keyword.length < window.stop := by
          simpa [Keyword.reachesEnd] using reaches
        have blank : blankAt window (position + keyword.length) =
            some (window.blankAt (position + keyword.length)) :=
          blankAt_eq (Nat.lt_of_lt_of_le behind within)
        cases asked : keyword.blankAfter <;> simp [reaches, blank]

/-! ### Clauses -/

/-- Whether the word before `position` is `starts`. -/
def followsStarts (window : Window) (position : Nat) : Option Bool :=
  if position < 6 then some false
  else do
    if ← if position = 6 then some true else blankAt window (position - 7) then
      let word ← chars window (position - 6) position
      return Text.sameIgnoringAsciiCase word "starts".toList
    else some false

theorem followsStarts_eq (inside : position ≤ window.stop) :
    followsStarts window position = some (Clause.followsStarts window position) := by
  have within := window.stop_le
  unfold followsStarts Clause.followsStarts
  generalize "starts".toList = letters
  split
  next short => simp [show ¬ 6 ≤ position by omega]
  next long =>
    rw [Nat.not_lt] at long
    by_cases first : position = 6
    · simp [first, chars_eq]
    · -- the word has a character in front of it
      have blank : blankAt window (position - 7) = some (window.blankAt (position - 7)) :=
        blankAt_eq (by omega)
      cases edge : window.blankAt (position - 7) <;>
        simp [blank, edge, first, chars_eq, long]

def isBoundaryAt (window : Window) (position : Nat) (clause : Clause) : Option Bool := do
  if ← matchesAt clause.boundary window position then
    if clause = .withFilter then (followsStarts window position).map (!·) else some true
  else some false

def boundaryAt? (window : Window) (position : Nat) : Option (Option Clause) :=
  Clause.all.findM? (isBoundaryAt window position)

theorem boundaryAt?_eq (inside : position ≤ window.stop) :
    boundaryAt? window position = some (Clause.boundaryAt? window position) := by
  have answers : isBoundaryAt window position =
      fun clause => pure (Clause.isBoundaryAt window position clause) := by
    funext clause
    unfold isBoundaryAt Clause.isBoundaryAt
    rw [matchesAt_eq]
    cases stands : clause.boundary.matchesAt window position with
    | false => rfl
    | true => by_cases filters : clause = .withFilter <;> simp [followsStarts_eq inside, filters]
  rw [boundaryAt?, answers, List.findM?_pure]
  rfl

/-- Where the text that begins at `start` ends. -/
def segmentEnd (window : Window) (start : Nat) : Option Nat := do
  let boundary ← firstIn start window.stop fun i => (boundaryAt? window i).map Option.isSome
  return boundary.getD window.stop

theorem segmentEnd_eq (window : Window) (start : Nat) :
    segmentEnd window start = some (Clause.segmentEnd window start) := by
  have answers : ∀ i, start ≤ i → i < window.stop →
      (boundaryAt? window i).map Option.isSome = some (Clause.boundaryAt? window i).isSome :=
    fun i _ below => by rw [boundaryAt?_eq (Nat.le_of_lt below), Option.map_some]
  simp only [segmentEnd, firstIn_eq answers, Clause.segmentEnd, Clause.findBoundary?]
  cases found : FleetQuery.firstIn start window.stop fun i =>
    (Clause.boundaryAt? window i).isSome with
  | none => simp
  | some boundary =>
    -- the search ended there because a clause begins, which is all that is asked
    obtain ⟨clause, begins⟩ := Option.isSome_iff_exists.mp (firstIn_holds found).1
    simp [begins]

/-- The clause whose keyword stands at `position`. -/
def detect? (window : Window) (position : Nat) : Option (Option Clause) :=
  Clause.all.findM? fun clause => matchesAt clause.keyword window position

theorem detect?_eq (window : Window) (position : Nat) :
    detect? window position = some (Clause.detect? window position) := by
  simp only [detect?, matchesAt_eq]
  exact List.findM?_pure _ _

/-- Reads the clause at `position`, leaving its body to `read`. -/
def take {α : Type} (window : Window) (clause : Clause) (position : Nat)
    (read : Clause.Segment → Option (Except ParseError α)) : Option (Reading α) := do
  if ← matchesAt clause.keyword window position then
    let start ← jump window position clause.keyword.length
    let stop ← segmentEnd window start
    let body ← trimSpan window (.between start stop)
    let next ← skipAhead window (← jumpTo window start stop)
    let outcome ← read ⟨.between position (position + clause.name.length), body, next⟩
    return ⟨outcome, next⟩
  else
    let error ← locate window (.missingClause clause.name) (.between position position)
    return ⟨.error error, position⟩

theorem take_eq {α : Type} {clause : Clause}
    {read : Clause.Segment → Option (Except ParseError α)}
    {known : Clause.Segment → Except ParseError α} (inside : position ≤ window.stop)
    (reads : ∀ segment, Clause.segment? window clause position = some segment →
      read segment = some (known segment)) :
    take window clause position read = some (Clause.take window clause position known) := by
  simp only [take, Clause.take, Clause.segment?, matchesAt_eq] at reads ⊢
  cases stands : clause.keyword.matchesAt window position with
  | false => simp [locate_eq, Clause.missing]
  | true =>
    -- each move goes on from where the one before it stopped
    have start : window.jump position clause.keyword.length ≤ window.stop := Nat.min_le_right ..
    have stop := Clause.le_segmentEnd window _ start
    have held : window.jumpTo (Clause.segmentEnd window
        (window.jump position clause.keyword.length)) ≤ window.stop := Nat.min_le_right ..
    simp only [stands, if_true, Option.some.injEq, forall_eq'] at reads
    simp [jump_eq inside, segmentEnd_eq, trimSpan_eq, jumpTo_eq start stop, skipAhead_eq held,
      reads]

end FleetQuery.Guarded
