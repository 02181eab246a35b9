import FleetQuery.Proofs.Outcome
import FleetQuery.Proofs.Question.Comparisons

/-!
# Reading written predicates

The value of a written predicate holds together, and so the predicates of a clause are told from each
other and read as they were written. Main statement: `exists_ofSegment`.
-/
namespace FleetQuery.Written

/-! ### Predicates as comparisons -/

theorem Value.holdsTogether (value : Value) : HoldsTogether value.chars where
  calm := by
    rintro left right split ⟨clause, begins, _⟩
    apply value.calm clause
    rw [split, List.map_append]
    exact begins.isInfix.trans (List.suffix_append _ _).isInfix
  unjoined := by
    rintro left b _ split blank ⟨word, c, more, rfl, spelled, after⟩
    exact value.unjoined left b word c more split blank after spelled

/-- A written predicate as a comparison, which has the same text and content. -/
def Predicate.comparison (predicate : Predicate) : Comparison where
  label := predicate.label
  operator := predicate.operator
  value := predicate.value.chars
  nonempty := predicate.value.nonempty
  unquoted := predicate.value.unquoted

theorem Predicate.calm (predicate : Predicate) (before rest : List Char) :
    Clause.Calm before predicate.chars rest :=
  predicate.comparison.calm predicate.value.holdsTogether before rest

theorem Predicate.calm_joined (predicate : Predicate) (before rest : List Char) :
    Clause.Calm before (" and ".toList ++ predicate.chars) rest :=
  predicate.comparison.calm_joined predicate.value.holdsTogether before rest

theorem calm_joinedChars (predicates : List Predicate) (before rest : List Char) :
    Clause.Calm before (joinedChars predicates) rest := by
  induction predicates generalizing before with
  | nil => exact Clause.calm_nil before rest
  | cons first others ih =>
    rw [joinedChars_cons, ← List.append_assoc]
    exact (first.calm_joined before _).append (ih _)

theorem Predicate.exists_first (predicate : Predicate) :
    ∃ c rest, predicate.chars = c :: rest ∧ Text.isBlank c = false :=
  predicate.comparison.exists_first

theorem Predicate.exists_last (predicate : Predicate) :
    ∃ front, predicate.chars = front ++ ['"'] :=
  predicate.comparison.exists_last

theorem Predicate.isTrimmed (predicate : Predicate) : Text.isTrimmed predicate.chars :=
  predicate.comparison.isTrimmed

/-! ### Splitting at `and` -/

section

variable {window : Window} {before rest : List Char}

theorem Predicate.split_eq (predicate : Predicate) {stop pivot : Nat}
    (reads : window.Reads before (predicate.chars ++ rest))
    (inside : (before ++ predicate.chars).length ≤ stop) :
    Filter.split window stop pivot before.length =
      Filter.split window stop pivot (before ++ predicate.chars).length :=
  predicate.comparison.split_eq predicate.value.holdsTogether reads inside

/-- A clause in writing is split into its predicates. -/
theorem spells_split (first : Predicate) (others : List Predicate)
    (reads : window.Reads before (first.chars ++ (joinedChars others ++ rest))) {stop : Nat}
    (ends : stop = (before ++ (first.chars ++ joinedChars others)).length) :
    List.Forall₂ (fun span predicate => window.Spells span predicate.chars)
      (Filter.split window stop before.length before.length) (first :: others) := by
  induction others generalizing before first with
  | nil =>
    have size : stop = (before ++ first.chars).length := by simp [ends, joinedChars]
    have past : ¬ (before ++ first.chars).length < stop := by omega
    rw [first.split_eq reads (Nat.le_of_eq size.symm), Filter.split, if_neg past, size,
      List.length_append]
    exact .cons ⟨before, _, reads, rfl⟩ .nil
  | cons second others ih =>
    obtain ⟨c, more, starts, visible⟩ := Text.exists_cons_of_isTrimmed second.isTrimmed
    rw [joinedChars_cons] at reads ends
    have joined : window.Reads (before ++ first.chars)
        (" and ".toList ++ (second.chars ++ (joinedChars others ++ rest))) := by
      simpa only [List.append_assoc] using reads.append
    have opened : window.Reads (before ++ first.chars)
        (" and ".toList ++ c :: (more ++ (joinedChars others ++ rest))) := by
      rw [starts] at joined
      exact joined
    have room : (before ++ first.chars).length + 5 < stop := by
      rw [ends, starts]
      simp
      omega
    have later : stop = (before ++ first.chars ++ " and ".toList ++
        (second.chars ++ joinedChars others)).length := by
      rw [ends]
      simp
    rw [first.split_eq reads (by omega), Filter.split_join opened visible room, List.length_append]
    exact .cons ⟨before, _, reads, rfl⟩ (ih second joined.append later)

/-- The body of a filter clause ends with a quote. -/
theorem exists_quote (first : Predicate) (others : List Predicate) :
    ∃ front, first.chars ++ joinedChars others = front ++ ['"'] := by
  induction others generalizing first with
  | nil =>
    obtain ⟨front, ends⟩ := first.exists_last
    exact ⟨front, by simpa [joinedChars] using ends⟩
  | cons second others ih =>
    obtain ⟨front, closes⟩ := ih second
    refine ⟨first.chars ++ (" and ".toList ++ front), ?_⟩
    rw [joinedChars_cons, closes]
    simp

/-- The predicates of the body of a clause. -/
theorem spells_predicates (first : Predicate) (others : List Predicate)
    (reads : window.Reads before (first.chars ++ joinedChars others ++ rest)) :
    List.Forall₂ (fun span predicate => window.Spells span predicate.chars)
      (Filter.predicates window
        (.between before.length (before.length + (first.chars ++ joinedChars others).length)))
      (first :: others) := by
  obtain ⟨front, closes⟩ := exists_quote first others
  have undotted : Filter.withoutDots window
      (.between before.length (before.length + (first.chars ++ joinedChars others).length)) =
        .between before.length (before.length + (first.chars ++ joinedChars others).length) := by
    rw [closes] at reads ⊢
    exact Filter.withoutDots_eq reads (by decide)
  rw [List.append_assoc] at reads
  have split := spells_split first others reads rfl
  have trimmed := split.imp fun span predicate spells => by
    have kept := spells.trimSpan_eq predicate.isTrimmed
    rw [← kept] at spells
    exact spells
  have texts : List.Forall₂ (fun span text => window.Spells (window.trimSpan span) text)
      (Filter.split window (before ++ (first.chars ++ joinedChars others)).length before.length
        before.length) ((first :: others).map Predicate.chars) := by
    rw [List.forall₂_map_right_iff]
    exact trimmed
  simp only [Filter.predicates, undotted, Span.start_between, Span.stop_between_add]
  rw [← List.length_append, Window.filter_trimSpan_eq texts, List.forall₂_map_left_iff]
  · exact trimmed
  · intro text member
    obtain ⟨predicate, _, rfl⟩ := List.mem_map.mp member
    exact predicate.isTrimmed

/-! ### Reading a clause -/

/-- The filters of a clause, from its body. -/
theorem exists_ofSegment (first : Predicate) (others : List Predicate)
    (extra : List (String × String))
    (reads : window.Reads before (first.chars ++ joinedChars others ++ rest))
    {segment : Clause.Segment}
    (body : segment.body =
      .between before.length (before.length + (first.chars ++ joinedChars others).length)) :
    ∃ filters,
      Filter.ofSegment (Catalog.standard.withGroups extra) window segment = .ok filters ∧
      filters.map Filter.content = (first :: others).map Predicate.content := by
  obtain ⟨filters, read, shows⟩ := exists_mapM_of_forall₂
    (fun _ predicate spells => predicate.comparison.exists_ofSpan extra spells)
    (spells_predicates first others reads)
  refine ⟨filters, ?_, ?_⟩
  · rw [Filter.ofSegment, body]
    exact read
  · have same : List.Forall₂ (· = ·) ((first :: others).map Predicate.content)
        (filters.map Filter.content) := by
      rw [List.forall₂_map_left_iff, List.forall₂_map_right_iff]
      exact shows.imp fun _ _ equal => equal.symm
    rw [List.forall₂_eq_eq_eq] at same
    exact same.symm

end

end FleetQuery.Written
