import FleetQuery.Proofs.Question.Items
import FleetQuery.Proofs.Question.Sequences

/-!
# Reading written questions

Every written question is read, and the query says what was written: the items, the scope and the
clauses, whatever their order. Main statement: `parse_text`.
-/
namespace FleetQuery.Written

/-! ### Scopes -/

section

variable {window : Window} {before rest : List Char}

theorem scopeChars_isTrimmed (scope : Option GroupName) : Text.isTrimmed (scopeChars scope) := by
  cases scope with
  | none => decide
  | some name =>
    have ends : scopeChars (some name) = ("group ".toList ++ '"' :: name.chars) ++ ['"'] := by
      rw [scopeChars_some, List.append_assoc, List.cons_append]
    exact Text.isTrimmed_of_ends (c := 'g') rfl rfl ends rfl

theorem scopeChars_calm (scope : Option GroupName) (before rest : List Char) :
    Clause.Calm before (scopeChars scope) rest := by
  cases scope with
  | none => exact Clause.calm_of_no_space (by decide) _ _
  | some name =>
    -- no boundary reaches over a quote, so the keyword, the quotes and the name are looked at apart
    have opening : ∀ clause : Clause, ¬ clause.boundary.letters <:+:
        "group ".toList.map Char.toLower := by
      intro clause
      cases clause <;> decide
    have quote : ∀ before rest, Clause.Calm before ['"'] rest :=
      fun before rest => Clause.calm_of_no_space (by decide) before rest
    have named := Clause.calm_before_quote name.calm (before ++ "group ".toList ++ ['"']) rest
    have quoted := (quote _ _).append (named.append (quote _ rest))
    exact (Clause.calm_before_quote opening before _).append quoted

theorem scopeChars_not_endsWithStarts (scope : Option GroupName) (before : List Char) :
    ¬ Clause.EndsWithStarts (before ++ scopeChars scope) := by
  cases scope with
  | none =>
    have ends : before ++ scopeChars none = (before ++ ['a', 'l']) ++ ['l'] := by
      rw [List.append_assoc]
      rfl
    rw [ends]
    exact Clause.not_endsWithStarts (by decide)
  | some name =>
    have ends : before ++ scopeChars (some name) =
        (before ++ ("group ".toList ++ '"' :: name.chars)) ++ ['"'] := by
      rw [scopeChars_some, List.append_assoc, List.append_assoc, List.cons_append]
    rw [ends]
    exact Clause.not_endsWithStarts (by decide)

theorem unquote_quoted (chars : List Char) : Scope.unquote ('"' :: (chars ++ ['"'])) = chars := by
  have ends : '"' :: (chars ++ ['"']) = ('"' :: chars) ++ ['"'] := rfl
  have last : ('"' :: (chars ++ ['"'])).getLast? = some '"' := by
    rw [ends, List.getLast?_concat]
  rw [Scope.unquote, if_pos ⟨by simp, rfl, last⟩, List.drop_succ_cons, List.drop_zero,
    List.dropLast_concat]

theorem ofSpan_scopeChars (scope : Option GroupName) (catalog : Catalog)
    (reads : window.Reads before (scopeChars scope ++ rest)) :
    Scope.ofSpan catalog window
        (.between before.length (before.length + (scopeChars scope).length)) =
      (⟨selection catalog scope,
        .between before.length (before.length + (scopeChars scope).length)⟩, []) := by
  have opens : Keyword.groupScope.matchesAt window before.length = true ↔
      Keyword.groupScope.letters <+: (scopeChars scope ++ rest).map Char.toLower :=
    Keyword.matchesAt_iff (by decide) rfl reads
  unfold Scope.ofSpan
  simp only [Span.start_between, Span.stop_between_add]
  cases scope with
  | none =>
    have unmatched : Keyword.groupScope.matchesAt window before.length = false := by
      rw [← Bool.not_eq_true, opens]
      rintro begins
      exact absurd (List.cons_prefix_cons.mp begins).1 (by decide)
    have same : Text.sameIgnoringAsciiCase (scopeChars none) "all".toList = true := by decide
    simp only [unmatched, Bool.false_and, Bool.false_eq_true, if_false, reads.slice, same, if_true]
    rfl
  | some name =>
    have matched : Keyword.groupScope.matchesAt window before.length = true := by
      rw [opens]
      exact ⟨('"' :: (name.chars ++ ['"']) ++ rest).map Char.toLower, rfl⟩
    have size : (scopeChars (some name)).length =
        Keyword.groupScope.length + ('"' :: (name.chars ++ ['"'])).length := by
      rw [scopeChars_some, List.length_append]
      rfl
    have inner : window.Reads (before ++ "group ".toList)
        ('"' :: (name.chars ++ ['"']) ++ rest) := by
      rw [scopeChars_some, List.append_assoc] at reads
      exact reads.append
    have place : before.length + Keyword.groupScope.length =
        (before ++ "group ".toList).length := by
      rw [List.length_append]
      rfl
    have trimmed : Text.isTrimmed ('"' :: (name.chars ++ ['"'])) :=
      Text.isTrimmed_of_ends rfl rfl (List.cons_append ..).symm rfl
    have spells : window.Spells (.between (before ++ "group ".toList).length
        ((before ++ "group ".toList).length + ('"' :: (name.chars ++ ['"'])).length))
        ('"' :: (name.chars ++ ['"'])) := ⟨_, _, inner, rfl⟩
    have fits : decide (before.length + Keyword.groupScope.length ≤
        before.length + (scopeChars (some name)).length) = true := by
      rw [decide_eq_true_eq]
      omega
    rw [matched, fits, Bool.and_self, if_pos rfl]
    simp only [size, ← Nat.add_assoc, place, spells.trimSpan_eq trimmed, spells.slice,
      unquote_quoted]
    rfl

/-- The scope of a question, from ` from ` to the first clause. -/
theorem read_scope_before (scope : Option GroupName) (catalog : Catalog)
    (follows : Clause.Follows rest)
    (reads : window.Reads before (" from ".toList ++ (scopeChars scope ++ rest))) :
    ∃ found next, Scope.read catalog window before.length = ⟨.ok (found, []), next.length⟩ ∧
      found.selection = selection catalog scope ∧ window.Reads next rest.tail := by
  have inner := reads.append
  obtain ⟨next, skipped, later⟩ := follows.exists_skipAhead inner.append
  obtain ⟨c, others, starts, visible⟩ := Text.exists_cons_of_isTrimmed (scopeChars_isTrimmed scope)
  have length : (scopeChars scope).length = others.length + 1 := by rw [starts, List.length_cons]
  have both : (scopeChars scope ++ rest).length =
      (scopeChars scope).length + (rest).length := List.length_append
  have bound : (before ++ " from ".toList).length + (scopeChars scope).length ≤ window.stop := by
    rw [inner.stop_eq, both]
    omega
  -- the scope begins right behind ` from ` and ends where the first clause follows
  have jumped : window.jump before.length Keyword.scopeOpening.length =
      (before ++ " from ".toList).length := by
    have size : (before ++ " from ".toList).length =
        before.length + Keyword.scopeOpening.length := List.length_append
    rw [Window.jump, ← size]
    exact Nat.min_eq_left (by omega)
  have start : window.skipAhead (before ++ " from ".toList).length =
      (before ++ " from ".toList).length := by
    have here := inner
    rw [starts] at here
    exact here.skipBlanks_visible visible (by omega)
  have ends : Clause.segmentEnd window (before ++ " from ".toList).length =
      (before ++ " from ".toList).length + (scopeChars scope).length :=
    Clause.segmentEnd_eq inner (scopeChars_calm scope _ _)
      (follows.ends (scopeChars_not_endsWithStarts scope _))
  have held : window.jumpTo ((before ++ " from ".toList).length + (scopeChars scope).length) =
      (before ++ " from ".toList ++ scopeChars scope).length :=
    (Nat.min_eq_left bound).trans List.length_append.symm
  have whole := inner.trimSpan_self (scopeChars_isTrimmed scope)
  refine ⟨⟨selection catalog scope, .between (before ++ " from ".toList).length
    ((before ++ " from ".toList).length + (scopeChars scope).length)⟩, next, ?_, rfl, later⟩
  unfold Scope.read
  simp only [jumped, start, ends, held, whole, ofSpan_scopeChars scope catalog inner, skipped]
  rw [if_neg (by omega)]

end

/-! ### Questions -/

/-- A question is read up to the first clause, and what is left is read as clauses. -/
theorem exists_opening (listing : Option Listing) (scope : Option GroupName)
    (extra : List (String × String)) {question : String} {rest : List Char}
    (begins : (Window.ofText question).start = 0)
    (reads : (Window.ofText question).Reads [] ("Get ".toList ++
      ((listing.map Listing.chars).getD [] ++ (" from ".toList ++ (scopeChars scope ++ rest)))))
    (follows : Clause.Follows rest) :
    ∃ bare next,
      Query.parse (Catalog.standard.withGroups extra) question =
        (Query.readClauses (Catalog.standard.withGroups extra) (Window.ofText question) bare []
          next.length).outcome.map Query.withShapeWarnings ∧
      (Window.ofText question).Reads next rest.tail ∧
      bare.content =
        { columns := ((listing.map Listing.items).getD []).filterMap Item.column?
          aggregations := ((listing.map Listing.items).getD []).filterMap Item.call?
          scope := selection (Catalog.standard.withGroups extra) scope
          filters := []
          groupBy := none
          orderBy := none
          limit := none } := by
  -- the space after the first word is left for ` from `, in case there are no items
  have spaced : (Window.ofText question).Reads "Get".toList
      (' ' :: ((listing.map Listing.chars).getD [] ++ (" from ".toList ++
        (scopeChars scope ++ rest)))) := reads
  have listed : (Window.ofText question).Reads
      ("Get".toList ++ ' ' :: (listing.map Listing.chars).getD [])
      (" from ".toList ++ (scopeChars scope ++ rest)) := by
    apply Window.Reads.append
    exact spaced
  obtain ⟨projection, items, columns, aggregations⟩ := read_listing listing extra spaced
  obtain ⟨found, next, around, selected, later⟩ :=
    read_scope_before scope (Catalog.standard.withGroups extra) follows listed
  have long : "Get".toList.length ≤ (Window.ofText question).stop := by
    rw [spaced.stop_eq]
    exact Nat.le_add_right ..
  have opening : (Window.ofText question).skipAhead 0 = 0 :=
    reads.skipBlanks_visible (c := 'G') rfl (Nat.lt_of_lt_of_le (by decide) long)
  have matched : Keyword.get.matchesAt (Window.ofText question) 0 = true := by
    apply (Keyword.matchesAt_iff (by decide) rfl reads).mpr
    exact ⟨((listing.map Listing.chars).getD [] ++ (" from ".toList ++
      (scopeChars scope ++ rest))).map Char.toLower, rfl⟩
  have jumped : (Window.ofText question).jump 0 (Keyword.get.length - 1) =
      "Get".toList.length := Nat.min_eq_left long
  refine ⟨Query.ofParts projection found [], next, ?_, later, ?_⟩
  · unfold Query.parse Query.read
    simp only [begins, opening, matched, if_true, jumped, items, around]
  · simp [Query.ofParts, Query.content, columns, aggregations, selected]

namespace Question

variable (question : Question)

/-- A text goes on to end visibly with clauses after it. -/
theorem exists_last (parts : List Part) (text : List Char)
    (closed : ∃ front d, text = front ++ [d] ∧ Text.isBlank d = false) :
    ∃ front d, text ++ partsChars parts = front ++ [d] ∧ Text.isBlank d = false := by
  induction parts generalizing text with
  | nil => simpa [partsChars] using closed
  | cons part parts ih =>
    obtain ⟨_, front, d, ends, visible, _⟩ := part.exists_ends
    obtain ⟨front, d, ends, visible⟩ := ih (text ++ ' ' :: part.chars)
      ⟨text ++ ' ' :: (part.clause.name.toList ++ ' ' :: front), d, by simp [Part.chars, ends],
        visible⟩
    refine ⟨front, d, ?_, visible⟩
    rw [← ends, partsChars_cons]
    simp

theorem isTrimmed : Text.isTrimmed question.chars := by
  obtain ⟨front, d, ends, visible⟩ := exists_last question.parts (scopeChars question.scope)
    (Text.exists_concat_of_isTrimmed (scopeChars_isTrimmed question.scope))
  have last : question.chars = "Get ".toList ++ ((question.listing.map Listing.chars).getD [] ++
      (" from ".toList ++ front)) ++ [d] := by
    simp [chars, ends]
  exact Text.isTrimmed_of_ends (c := 'G') rfl rfl last visible

/-- The window on a question covers all of it. -/
theorem window_text : (Window.ofText question.text).start = 0 ∧
    (Window.ofText question.text).Reads [] question.chars := by
  have none : ∀ b ∈ ([] : List Char), Text.isBlank b = true := fun _ => List.not_mem_nil.elim
  have whole := Window.ofChars_of_trimmed none question.isTrimmed none
  rw [List.append_nil, List.nil_append] at whole
  rw [Window.ofText, text, String.toList_ofList]
  exact whole

theorem reads_text : (Window.ofText question.text).Reads [] question.chars :=
  question.window_text.2

theorem start_text : (Window.ofText question.text).start = 0 := question.window_text.1

theorem content_withShapeWarnings (query : Query) :
    query.withShapeWarnings.content = query.content := rfl

/-- Every written question is read, and the query asks for what was written. -/
theorem parse_text (extra : List (String × String)) :
    ∃ query, Query.parse (Catalog.standard.withGroups extra) question.text = .ok query ∧
      query.content = question.content (Catalog.standard.withGroups extra) := by
  -- the clauses start from a query that holds the items and the scope alone
  obtain ⟨bare, next, parsed, later, opened⟩ := exists_opening question.listing question.scope extra
    question.start_text question.reads_text (partsChars_follows question.parts)
  obtain ⟨result, position, clauses, shown⟩ := exists_readClauses question.parts extra bare []
    (fun _ _ => List.not_mem_nil) question.once later
  refine ⟨result.withShapeWarnings, ?_, ?_⟩
  · rw [parsed, clauses]
    rfl
  · rw [content_withShapeWarnings, shown, foldl_addTo question.parts question.once, opened]
    simp [content, Question.items]

/-- A value that is a word of the language itself. -/
def sampleValue : Value where
  chars := "with".toList
  nonempty := by decide
  unquoted := by decide
  calm := by
    intro clause
    cases clause <;> decide +kernel
  unjoined := by
    intro front before word after rest split blank
    have solid : ∀ c ∈ "with".toList, Text.isBlank c = false := Text.isBlank_of_all (by decide)
    rw [solid before (by simp [split])] at blank
    cases blank

/-- A question with every kind of clause, some filters before and some after the others. -/
def sample : Question where
  listing := some (.more (.column ⟨"Location".toList, .location, by decide +kernel⟩) .word
    (.item (.aggregate ⟨.count, "COUNT".toList, by decide +kernel, none⟩)))
  scope := some ⟨"Finance".toList, by intro clause; cases clause <;> decide +kernel⟩
  parts :=
    [.filters .withFilter rfl
      ⟨⟨"Role".toList, .role, by decide +kernel⟩, .startsWith, sampleValue⟩
      [⟨⟨"OS version".toList, .osVersion, by decide +kernel⟩, .contains, sampleValue⟩],
     .limit 5 (by decide),
     .filters .whereFilter rfl
      ⟨⟨"group".toList, .groupName, by decide +kernel⟩, .startsWith, sampleValue⟩ [],
     .orderBy ⟨"location".toList, .location, by decide +kernel⟩ (some false),
     .groupBy ⟨"LOCATION".toList, .location, by decide +kernel⟩]
  once := by decide

/-- What the sample is, and that it is read so. -/
theorem parse_sample :
    sample.text = "Get Location and COUNT() from group \"Finance\"" ++
      " with Role starts with \"with\" and OS version contains \"with\" limit 5" ++
      " where group starts with \"with\" order by location desc group by LOCATION" ∧
    ∃ query, Query.parse (Catalog.standard.withGroups []) sample.text = .ok query ∧
      query.content =
        { columns := ["Location"]
          aggregations := [(.count, none)]
          scope := .group "Finance Workstations"
          filters :=
            [(.role, "Role", .startsWith, "with"), (.osVersion, "OS version", .contains, "with"),
             (.groupName, "group", .startsWith, "with")]
          groupBy := some "LOCATION"
          orderBy := some ("location", false)
          limit := some 5 } := by
  obtain ⟨query, parsed, shown⟩ := parse_text sample []
  exact ⟨by decide +kernel, query, parsed, shown.trans (by decide +kernel)⟩

end Question
end FleetQuery.Written
