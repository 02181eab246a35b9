import FleetQuery.Json.Printer
import FleetQuery.Table

/-!
# Comma-separated values

One line for the headers and one for each row, each ended by a carriage return and a line feed. A
field is quoted if it holds a comma, a quote or a line break, and a quote inside is written twice.
-/
namespace FleetQuery.Table

/-- The text of a cell: nothing for a missing one, and JSON for what is not text. -/
def csvText : Json → List Char
  | .null => []
  | .string text => text.toList
  | other => other.print

def needsQuotes (c : Char) : Bool := c == ',' || c == '"' || c == '\r' || c == '\n'

def doubleQuotes : List Char → List Char
  | [] => []
  | c :: rest => if c = '"' then '"' :: '"' :: doubleQuotes rest else c :: doubleQuotes rest

def csvField (text : List Char) : List Char :=
  if text.any needsQuotes then '"' :: doubleQuotes text ++ ['"'] else text

def csvLine (fields : List (List Char)) : List Char :=
  [','].intercalate (fields.map csvField) ++ ['\r', '\n']

def csvChars (table : Table) : List Char :=
  csvLine (table.headers.map String.toList) ++
    table.rows.flatMap fun row => csvLine (row.map csvText)

def toCsv (table : Table) : String := String.ofList table.csvChars

end FleetQuery.Table
