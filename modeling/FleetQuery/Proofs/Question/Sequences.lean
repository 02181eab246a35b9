import FleetQuery.Proofs.Question.Clauses
import FleetQuery.Proofs.Question.Parts

/-!
# Reading clauses in a row

Written clauses are read one after another, in whatever order they come, up to the end of the text.
Main statements: `exists_readClauses` and `foldl_addTo`.
-/
namespace FleetQuery.Written

/-! ### Clauses in a row -/

section

variable {window : Window} {before rest : List Char}

theorem partsChars_cons (part : Part) (parts : List Part) :
    partsChars (part :: parts) = ' ' :: (part.chars ++ partsChars parts) := rfl

theorem map_toLower_name (clause : Clause) :
    clause.name.toList.map Char.toLower = clause.name.toList := by
  cases clause <;> decide

theorem partsChars_follows (parts : List Part) : Clause.Follows (partsChars parts) := by
  cases parts with
  | nil => exact .inl rfl
  | cons part parts =>
    refine .inr ⟨part.clause, part.body.map Char.toLower ++ (partsChars parts).map Char.toLower, ?_⟩
    simp [partsChars_cons, Part.chars, Clause.boundary_letters, map_toLower_name]

theorem readClauses_part (part : Part) (parts : List Part) (extra : List (String × String))
    (query : Query) (seen : List Clause) (fresh : part.clause ∉ seen)
    (reads : window.Reads before (part.chars ++ partsChars parts)) :
    ∃ extended next,
      Query.readClauses (Catalog.standard.withGroups extra) window query seen before.length =
        Query.readClauses (Catalog.standard.withGroups extra) window extended
          (if part.clause.isRepeatable then seen else part.clause :: seen) next.length ∧
      extended.content = part.addTo query.content ∧
      window.Reads next (partsChars parts).tail := by
  have follows := partsChars_follows parts
  have split : part.chars ++ partsChars parts =
      (part.clause.name.toList ++ [' ']) ++ (part.body ++ partsChars parts) := by
    simp [Part.chars]
  have opens : (part.clause.name.toList ++ [' ']).map Char.toLower =
      part.clause.keyword.letters := by
    rw [List.map_append, map_toLower_name]
    rfl
  rw [split] at reads
  have detected := Clause.detect?_eq_some reads opens
  -- the body is calm and another clause or the end follows it, so it is the whole segment
  have inner := reads.append
  obtain ⟨segment, taken, body, after⟩ : ∃ segment,
      Clause.segment? window part.clause before.length = some segment ∧
      segment.body = .between (before ++ (part.clause.name.toList ++ [' '])).length
        ((before ++ (part.clause.name.toList ++ [' '])).length + part.body.length) ∧
      segment.next = window.skipAhead
        (before ++ (part.clause.name.toList ++ [' ']) ++ part.body).length :=
    ⟨_, Clause.segment?_eq_some reads opens (part.calm follows _)
      (follows.ends (part.not_endsWithStarts _)) part.isTrimmed, rfl, by rw [← List.length_append]⟩
  obtain ⟨extended, added, shown⟩ := part.exists_addClause extra inner follows.space query body
  obtain ⟨next, skipped, later⟩ := follows.exists_skipAhead inner.append
  have going : before.length < window.stop := by
    have stop := reads.stop_eq
    simp only [List.length_append, List.length_singleton] at stop
    omega
  refine ⟨extended, next, ?_, shown, later⟩
  rw [Query.readClauses_of_clause _ window query extended seen before.length part.clause segment
    going detected fresh taken added, after, skipped]

theorem exists_readClauses (parts : List Part) (extra : List (String × String)) (query : Query)
    (seen : List Clause) (fresh : ∀ part ∈ parts, part.clause ∉ seen)
    (once : ((parts.map Part.clause).filter fun clause => !clause.isRepeatable).Nodup)
    (reads : window.Reads before (partsChars parts).tail) :
    ∃ result position,
      Query.readClauses (Catalog.standard.withGroups extra) window query seen before.length =
        ⟨.ok result, position⟩ ∧
      result.content = parts.foldl Part.addTo query.content := by
  induction parts generalizing query seen before with
  | nil =>
    have stop := reads.stop_eq
    refine ⟨query, before.length, ?_, rfl⟩
    exact Query.readClauses_of_end _ window query seen _ (by simpa [partsChars] using stop.le)
  | cons part parts ih =>
    obtain ⟨extended, next, step, shown, later⟩ :=
      readClauses_part part parts extra query seen (fresh part List.mem_cons_self) reads
    rw [step, List.foldl_cons, ← shown]
    -- only a clause that must not come again is remembered
    cases repeatable : part.clause.isRepeatable with
    | true =>
      rw [List.map_cons, List.filter_cons_of_neg (by simp [repeatable])] at once
      exact ih extended seen (fun other member => fresh other (List.mem_cons_of_mem _ member)) once
        later
    | false =>
      rw [List.map_cons, List.filter_cons_of_pos (by simp [repeatable]), List.nodup_cons] at once
      refine ih extended (part.clause :: seen) (fun other member held => ?_) once.2 later
      rcases List.mem_cons.mp held with same | earlier
      · apply once.1
        rw [List.mem_filter, ← same]
        exact ⟨List.mem_map_of_mem member, by simp [same, repeatable]⟩
      · exact fresh other (List.mem_cons_of_mem _ member) earlier

/-! ### The clauses together -/

/-- Nothing is found of a clause that does not occur. -/
theorem findSome?_eq_none_of_absent {α : Type} {parts : List Part} {clause : Clause}
    {read : Part → Option α} (others : ∀ part : Part, part.clause ≠ clause → read part = none)
    (absent : clause ∉ parts.map Part.clause) : parts.findSome? read = none := by
  rw [List.findSome?_eq_none_iff]
  intro part member
  apply others
  rintro rfl
  exact absent (List.mem_map_of_mem member)

theorem Part.groupBy?_eq_none (part : Part) (other : part.clause ≠ .groupBy) :
    part.groupBy? = none := by
  cases part with
  | groupBy label => exact absurd rfl other
  | orderBy | limit | filters => rfl

theorem Part.orderBy?_eq_none (part : Part) (other : part.clause ≠ .orderBy) :
    part.orderBy? = none := by
  cases part with
  | orderBy label direction => exact absurd rfl other
  | groupBy | limit | filters => rfl

theorem Part.limit?_eq_none (part : Part) (other : part.clause ≠ .limit) : part.limit? = none := by
  cases part with
  | limit rows fits => exact absurd rfl other
  | groupBy | orderBy | filters => rfl

/-- A clause that comes once does not come again. -/
theorem not_mem_of_once {part : Part} {parts : List Part}
    (once : (((part :: parts).map Part.clause).filter fun clause => !clause.isRepeatable).Nodup)
    (single : part.clause.isRepeatable = false) : part.clause ∉ parts.map Part.clause := by
  rw [List.map_cons, List.filter_cons_of_pos (by simp [single]), List.nodup_cons] at once
  intro member
  exact once.1 (List.mem_filter.mpr ⟨member, by simp [single]⟩)

theorem once_tail {part : Part} {parts : List Part}
    (once : (((part :: parts).map Part.clause).filter fun clause => !clause.isRepeatable).Nodup) :
    ((parts.map Part.clause).filter fun clause => !clause.isRepeatable).Nodup :=
  List.Nodup.sublist ((List.sublist_cons_self _ _).filter _) once

/-- The clauses add up: their filters follow one another, and each other clause is the one that was
written. -/
theorem foldl_addTo (parts : List Part)
    (once : ((parts.map Part.clause).filter fun clause => !clause.isRepeatable).Nodup)
    (content : Query.Content) :
    parts.foldl Part.addTo content =
      { content with
        filters := content.filters ++ (parts.flatMap Part.predicates).map Predicate.content
        groupBy := (parts.findSome? Part.groupBy?).or content.groupBy
        orderBy := (parts.findSome? Part.orderBy?).or content.orderBy
        limit := (parts.findSome? Part.limit?).or content.limit } := by
  induction parts generalizing content with
  | nil => simp
  | cons part parts ih =>
    -- the clauses after this one do not set again what it sets
    rw [List.foldl_cons, ih (once_tail once)]
    cases part with
    | groupBy label =>
      have later := findSome?_eq_none_of_absent Part.groupBy?_eq_none (not_mem_of_once once rfl)
      simp [List.findSome?_cons, Part.addTo, Part.groupBy?, Part.orderBy?, Part.limit?,
        Part.predicates, later]
    | orderBy label direction =>
      have later := findSome?_eq_none_of_absent Part.orderBy?_eq_none (not_mem_of_once once rfl)
      simp [List.findSome?_cons, Part.addTo, Part.groupBy?, Part.orderBy?, Part.limit?,
        Part.predicates, later]
    | limit rows fits =>
      have later := findSome?_eq_none_of_absent Part.limit?_eq_none (not_mem_of_once once rfl)
      simp [List.findSome?_cons, Part.addTo, Part.groupBy?, Part.orderBy?, Part.limit?,
        Part.predicates, later]
    | filters clause repeatable first others =>
      simp [List.findSome?_cons, Part.addTo, Part.groupBy?, Part.orderBy?, Part.limit?,
        Part.predicates]

end
end FleetQuery.Written
