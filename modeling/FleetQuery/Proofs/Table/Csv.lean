import FleetQuery.Proofs.Outcome
import FleetQuery.Table.Csv

/-!
# Reading comma-separated values

A reader that knows whether it is between quotes takes the lines of a table back out of its text,
whatever commas, quotes and line breaks the cells hold. So the text tells the headers, the rows and
the texts of their cells. Main statement: `csv_tells_cells`.
-/
namespace FleetQuery.Table

/-- The texts of the headers and then those of each row. -/
def lines (table : Table) : List (List (List Char)) :=
  table.headers.map String.toList :: table.rows.map fun row => row.map csvText

/-- Whether every line has a field. The text of a line without fields is that of one empty field. -/
structure HasFields (table : Table) : Prop where
  headers : table.headers ≠ []
  rows : ∀ row ∈ table.rows, row ≠ []

/-! ### Texts of cells -/

/-- The text of a cell: nothing for a missing one, a text as it is, and compact JSON for any other. -/
inductive HasText : Json → String → Prop where
  | missing : HasText .null ""
  | text (text : String) : HasText (.string text) text
  | other {cell : Json} (present : cell ≠ .null) (untexted : ∀ text, cell ≠ .string text) :
      HasText cell cell.compact

theorem csvText_eq_iff {cell : Json} {text : String} :
    csvText cell = text.toList ↔ HasText cell text := by
  constructor
  · intro same
    -- the text is that of its characters, which are the ones of the cell
    have whole : String.ofList (csvText cell) = text := by rw [same, String.ofList_toList]
    rw [← whole]
    cases cell with
    | null => exact .missing
    | string value => simpa [csvText] using HasText.text value
    | bool | number | array | object => exact .other nofun nofun
  · intro spelled
    cases spelled with
    | missing => rfl
    | text => rfl
    | other present untexted =>
      cases cell with
      | null => exact absurd rfl present
      | string value => exact absurd rfl (untexted value)
      | bool | number | array | object => exact String.toList_ofList.symm

theorem hasText_csvText (cell : Json) : HasText cell (String.ofList (csvText cell)) :=
  csvText_eq_iff.mp String.toList_ofList.symm

/-! ### The reader -/

/-- Puts a character in front of the first field. -/
def addChar (c : Char) : List (List (List Char)) → List (List (List Char))
  | (field :: fields) :: others => ((c :: field) :: fields) :: others
  | others => others

/-- Puts an empty field in front of the first line. -/
def addField : List (List (List Char)) → List (List (List Char))
  | fields :: others => ([] :: fields) :: others
  | [] => []

/-- The lines of a text that begins within a field, between quotes or not. What no line break ends is
left out. -/
def readLines : Bool → List Char → List (List (List Char))
  | _, [] => []
  | false, '"' :: rest => readLines true rest
  | false, ',' :: rest => addField (readLines false rest)
  | false, '\r' :: '\n' :: rest => [[]] :: readLines false rest
  | false, c :: rest => addChar c (readLines false rest)
  | true, '"' :: '"' :: rest => addChar '"' (readLines true rest)
  | true, '"' :: rest => readLines false rest
  | true, c :: rest => addChar c (readLines true rest)

theorem foldr_addChar (text field : List Char) (fields : List (List Char))
    (others : List (List (List Char))) :
    text.foldr addChar ((field :: fields) :: others) = ((text ++ field) :: fields) :: others := by
  induction text with
  | nil => rfl
  | cons c text ih => rw [List.foldr_cons, ih, addChar, List.cons_append]

/-! ### Fields -/

theorem readLines_plain {text : List Char} (plain : text.any needsQuotes = false)
    (rest : List Char) :
    readLines false (text ++ rest) = text.foldr addChar (readLines false rest) := by
  induction text with
  | nil => rfl
  | cons c text ih =>
    rw [List.any_cons, Bool.or_eq_false_iff] at plain
    have other : c ≠ ',' ∧ c ≠ '"' ∧ c ≠ '\r' := by
      have here := plain.1
      simp only [needsQuotes, Bool.or_eq_false_iff, beq_eq_false_iff_ne] at here
      exact ⟨here.1.1.1, here.1.1.2, here.1.2⟩
    rw [List.cons_append, List.foldr_cons, ← ih plain.2]
    simp [readLines, other]

theorem readLines_quoted (text : List Char) {rest : List Char} (apart : rest.head? ≠ some '"') :
    readLines true (doubleQuotes text ++ '"' :: rest) =
      text.foldr addChar (readLines false rest) := by
  induction text with
  | nil =>
    -- a quote behind the closing one would make the two of them a character of the field
    cases rest with
    | nil => rfl
    | cons c rest =>
      have other : c ≠ '"' := by simpa using apart
      simp [doubleQuotes, readLines, other]
  | cons c text ih =>
    rw [List.foldr_cons, ← ih, doubleQuotes]
    split
    next quote =>
      rw [quote]
      rfl
    next other => simp [readLines, other]

theorem readLines_csvField (text : List Char) {rest : List Char} (apart : rest.head? ≠ some '"') :
    readLines false (csvField text ++ rest) = text.foldr addChar (readLines false rest) := by
  rw [csvField]
  split
  next =>
    rw [List.cons_append, List.cons_append, List.append_assoc]
    exact readLines_quoted text apart
  next plain => exact readLines_plain ((Bool.not_eq_true _).mp plain) rest

/-! ### Lines -/

theorem csvLine_single (field : List Char) : csvLine [field] = csvField field ++ ['\r', '\n'] := by
  simp [csvLine, List.intercalate]

theorem csvLine_cons_cons (first second : List Char) (others : List (List Char)) :
    csvLine (first :: second :: others) = csvField first ++ ',' :: csvLine (second :: others) := by
  simp [csvLine, List.intercalate]

/-- A line that has a field is read whole. -/
theorem readLines_csvLine {fields : List (List Char)} (nonempty : fields ≠ []) (rest : List Char) :
    readLines false (csvLine fields ++ rest) = fields :: readLines false rest := by
  induction fields with
  | nil => exact absurd rfl nonempty
  | cons first others ih =>
    -- the last field is ended by the line break, the others by a comma
    cases others with
    | nil =>
      have ends : readLines false ('\r' :: '\n' :: rest) = [[]] :: readLines false rest := rfl
      rw [csvLine_single, List.append_assoc, List.cons_append, List.cons_append, List.nil_append,
        readLines_csvField first (by simp), ends, foldr_addChar, List.append_nil]
    | cons second others =>
      have later := ih (List.cons_ne_nil second others)
      have next : readLines false (',' :: (csvLine (second :: others) ++ rest)) =
          addField (readLines false (csvLine (second :: others) ++ rest)) := rfl
      rw [csvLine_cons_cons, List.append_assoc, List.cons_append,
        readLines_csvField first (by simp), next, later, addField, foldr_addChar, List.append_nil]

theorem readLines_flatMap_csvLine {lines : List (List (List Char))}
    (filled : ∀ fields ∈ lines, fields ≠ []) :
    readLines false (lines.flatMap csvLine) = lines := by
  induction lines with
  | nil => rfl
  | cons fields lines ih =>
    rw [List.flatMap_cons, readLines_csvLine (filled fields List.mem_cons_self),
      ih fun other member => filled other (List.mem_cons_of_mem _ member)]

/-! ### Tables -/

theorem csvChars_eq_flatMap (table : Table) : table.csvChars = table.lines.flatMap csvLine := by
  rw [lines, List.flatMap_cons, List.flatMap_map, csvChars]

/-- The lines of a table are read back from its text. -/
theorem readLines_csvChars {table : Table} (filled : table.HasFields) :
    readLines false table.csvChars = table.lines := by
  rw [csvChars_eq_flatMap]
  apply readLines_flatMap_csvLine
  intro fields member
  rcases List.mem_cons.mp member with rfl | later
  · exact fun empty => filled.headers (List.map_eq_nil_iff.mp empty)
  · obtain ⟨row, listed, rfl⟩ := List.mem_map.mp later
    exact fun empty => filled.rows row listed (List.map_eq_nil_iff.mp empty)

/-- Tables with the same text have the same headers, and rows of cells with the same texts. -/
theorem csv_tells_cells {first second : Table} (filled : first.HasFields ∧ second.HasFields)
    (same : first.toCsv = second.toCsv) :
    first.headers = second.headers ∧ first.rows.length = second.rows.length ∧
      List.Forall₂ (List.Forall₂ fun left right => ∃ text, HasText left text ∧ HasText right text)
        first.rows second.rows := by
  have lines : first.lines = second.lines := by
    rw [← readLines_csvChars filled.1, ← readLines_csvChars filled.2, String.ofList_inj.mp same]
  obtain ⟨headers, rows⟩ := List.cons.inj lines
  have cells : ∀ left right, csvText left = csvText right →
      ∃ text, HasText left text ∧ HasText right text := fun left right equal =>
    ⟨String.ofList (csvText left), hasText_csvText left, equal ▸ hasText_csvText right⟩
  have texts := forall₂_of_map_eq (fun _ _ => forall₂_of_map_eq cells) rows
  exact ⟨List.map_injective_iff.mpr (fun _ _ => String.toList_inj.mp) headers, texts.length_eq,
    texts⟩

/-- Two tables that differ, the one in text and numbers and the other in text alone. -/
theorem csv_tells_cells_sample :
    let first : Table := ⟨["a,\"b\"", ""], [[.string "\r\n", .number (.integer 7)], [.null, .bool true]]⟩
    let second : Table :=
      ⟨["a,\"b\"", ""], [[.string "\r\n", .string "7"], [.string "", .string "true"]]⟩
    (first.HasFields ∧ second.HasFields) ∧ first.toCsv = second.toCsv ∧
      List.Forall₂ (List.Forall₂ fun left right => ∃ text, HasText left text ∧ HasText right text)
        first.rows second.rows := by
  intro first second
  have filled : first.HasFields ∧ second.HasFields := by
    constructor <;> constructor <;> simp [first, second]
  have same : first.toCsv = second.toCsv := by decide +kernel
  exact ⟨filled, same, (csv_tells_cells filled same).2.2⟩

end FleetQuery.Table
