import FleetQuery.Json.Basic
import FleetQuery.Binary64.Text

/-!
# JSON text, written

Compact text has no blanks. Indented text puts every item and member on a line of its own, two
blanks deeper than its container, and leaves empty containers on one line.
-/
namespace FleetQuery.Json

/-- Numbers are positional from `0.00001` up to sixteen digits before the point. -/
def numeralStyle : Binary64.NumeralStyle := ⟨-5, 15, 1, .even⟩

def printNumber : Number → List Char
  | .integer value =>
    (if value < 0 then ['-'] else []) ++ Binary64.digitsOf value.natAbs
  | .float (.finite negative rank) => Binary64.writeFinite numeralStyle negative rank
  | .float _ => "null".toList

def hexDigit (n : Nat) : Char := (Nat.toDigits 16 n).headD '0'

/-- Escapes the quote, the backslash and the controls. -/
def escapeChar (c : Char) : List Char :=
  if c = '"' then ['\\', '"']
  else if c = '\\' then ['\\', '\\']
  else if c = '\n' then ['\\', 'n']
  else if c = '\r' then ['\\', 'r']
  else if c = '\t' then ['\\', 't']
  else if c = '\x08' then ['\\', 'b']
  else if c = '\x0c' then ['\\', 'f']
  else if c.toNat < 0x20 then
    ['\\', 'u', '0', '0', hexDigit (c.toNat / 16), hexDigit (c.toNat % 16)]
  else [c]

def printString (text : String) : List Char :=
  '"' :: text.toList.flatMap escapeChar ++ ['"']

/-! ### Compact text -/

mutual

def print : Json → List Char
  | null => "null".toList
  | bool value => if value then "true".toList else "false".toList
  | number value => printNumber value
  | string value => printString value
  | array items => '[' :: printItems items ++ [']']
  | object members => '\x7b' :: printMembers members ++ ['\x7d']

def printItems : List Json → List Char
  | [] => []
  | item :: rest => print item ++ printMoreItems rest

def printMoreItems : List Json → List Char
  | [] => []
  | item :: rest => ',' :: print item ++ printMoreItems rest

def printMembers : List (String × Json) → List Char
  | [] => []
  | (name, value) :: rest => printString name ++ ':' :: print value ++ printMoreMembers rest

def printMoreMembers : List (String × Json) → List Char
  | [] => []
  | (name, value) :: rest =>
    ',' :: printString name ++ ':' :: print value ++ printMoreMembers rest

end

def compact (value : Json) : String := String.ofList (print value)

/-! ### Indented text -/

/-- A new line at the given depth. -/
def newLine (depth : Nat) : List Char := '\n' :: List.replicate (2 * depth) ' '

mutual

def indent (depth : Nat) : Json → List Char
  | array [] => ['[', ']']
  | array (item :: rest) =>
    '[' :: newLine (depth + 1) ++ indent (depth + 1) item ++ indentMoreItems (depth + 1) rest ++
      newLine depth ++ [']']
  | object [] => ['\x7b', '\x7d']
  | object ((name, value) :: rest) =>
    '\x7b' :: newLine (depth + 1) ++ printString name ++ ':' :: ' ' :: indent (depth + 1) value ++
      indentMoreMembers (depth + 1) rest ++ newLine depth ++ ['\x7d']
  | null => "null".toList
  | bool value => if value then "true".toList else "false".toList
  | number value => printNumber value
  | string value => printString value

def indentMoreItems (depth : Nat) : List Json → List Char
  | [] => []
  | item :: rest => ',' :: newLine depth ++ indent depth item ++ indentMoreItems depth rest

def indentMoreMembers (depth : Nat) : List (String × Json) → List Char
  | [] => []
  | (name, value) :: rest =>
    ',' :: newLine depth ++ printString name ++ ':' :: ' ' :: indent depth value ++
      indentMoreMembers depth rest

end

def indented (value : Json) : String := String.ofList (indent 0 value)

end FleetQuery.Json
