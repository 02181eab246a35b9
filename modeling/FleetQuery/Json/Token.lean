import FleetQuery.Json.Numeral

/-!
# JSON tokens

The text is read one character at a time. A state holds the tokens finished so far and the one in
progress; a numeral or word ends at the first character that cannot belong to it.
-/
namespace FleetQuery.Json

inductive Token where
  | beginArray
  | endArray
  | beginObject
  | endObject
  | comma
  | colon
  | null
  | bool (value : Bool)
  | numeral (numeral : Numeral)
  /-- A text is missing if an escape in it names half of a surrogate pair. -/
  | string (text : Option String)
deriving DecidableEq

namespace Token

/-- What the next character continues. -/
inductive Mode where
  | between
  | word (letters : List Char)
  | numeral (chars : List Char)
  /-- A string with its code units so far, in reverse. -/
  | string (units : List Nat)
  | escape (units : List Nat)
  /-- A numeric escape with the value and number of its digits so far. -/
  | code (units : List Nat) (value digits : Nat)

/-- Finished tokens, in reverse, and the token in progress. -/
structure Progress where
  tokens : List Token
  mode : Mode

def start : Progress := ⟨[], .between⟩

def isSpace (c : Char) : Bool := c == ' ' || c == '\t' || c == '\n' || c == '\r'

def isLetter (c : Char) : Bool := 'a' ≤ c && c ≤ 'z'

def continuesNumeral (c : Char) : Bool :=
  c.isDigit || c == '+' || c == '-' || c == '.' || c == 'e' || c == 'E'

def ofWord (letters : List Char) : Option Token :=
  if letters = "null".toList then some .null
  else if letters = "true".toList then some (.bool true)
  else if letters = "false".toList then some (.bool false)
  else none

/-- The characters of a run of code units, in which surrogates must come in pairs. -/
def decodeUnits : List Nat → Option (List Char)
  | [] => some []
  | high :: low :: rest =>
    if 0xD800 ≤ high ∧ high < 0xDC00 ∧ 0xDC00 ≤ low ∧ low < 0xE000 then
      (decodeUnits rest).map
        (Char.ofNat (0x10000 + (high - 0xD800) * 0x400 + (low - 0xDC00)) :: ·)
    else if 0xD800 ≤ high ∧ high < 0xE000 then none
    else (decodeUnits (low :: rest)).map (Char.ofNat high :: ·)
  | [unit] => if 0xD800 ≤ unit ∧ unit < 0xE000 then none else some [Char.ofNat unit]

def hexValue? (c : Char) : Option Nat :=
  if c.isDigit then some (c.toNat - '0'.toNat)
  else if 'a' ≤ c ∧ c ≤ 'f' then some (c.toNat - 'a'.toNat + 10)
  else if 'A' ≤ c ∧ c ≤ 'F' then some (c.toNat - 'A'.toNat + 10)
  else none

/-- The character that a short escape stands for. -/
def shortEscape? (c : Char) : Option Char :=
  if c = '"' ∨ c = '\\' ∨ c = '/' then some c
  else if c = 'b' then some '\x08'
  else if c = 'f' then some '\x0c'
  else if c = 'n' then some '\n'
  else if c = 'r' then some '\r'
  else if c = 't' then some '\t'
  else none

/-- A character between tokens. -/
def stepBetween (tokens : List Token) (c : Char) : Option Progress :=
  if isSpace c then some ⟨tokens, .between⟩
  else if c = '[' then some ⟨.beginArray :: tokens, .between⟩
  else if c = ']' then some ⟨.endArray :: tokens, .between⟩
  else if c = '\x7b' then some ⟨.beginObject :: tokens, .between⟩
  else if c = '\x7d' then some ⟨.endObject :: tokens, .between⟩
  else if c = ',' then some ⟨.comma :: tokens, .between⟩
  else if c = ':' then some ⟨.colon :: tokens, .between⟩
  else if c = '"' then some ⟨tokens, .string []⟩
  else if c.isDigit ∨ c = '-' then some ⟨tokens, .numeral [c]⟩
  else if isLetter c then some ⟨tokens, .word [c]⟩
  else none

def step (progress : Progress) (c : Char) : Option Progress :=
  match progress.mode with
  | .between => stepBetween progress.tokens c
  | .word letters =>
    if isLetter c then some ⟨progress.tokens, .word (c :: letters)⟩
    else (ofWord letters.reverse).bind fun token => stepBetween (token :: progress.tokens) c
  | .numeral chars =>
    if continuesNumeral c then some ⟨progress.tokens, .numeral (c :: chars)⟩
    else (Numeral.read chars.reverse).bind fun numeral =>
      stepBetween (.numeral numeral :: progress.tokens) c
  | .string units =>
    if c = '"' then
      some ⟨.string ((decodeUnits units.reverse).map String.ofList) :: progress.tokens, .between⟩
    else if c = '\\' then some ⟨progress.tokens, .escape units⟩
    else if c.toNat < 0x20 then none
    else some ⟨progress.tokens, .string (c.toNat :: units)⟩
  | .escape units =>
    if c = 'u' then some ⟨progress.tokens, .code units 0 0⟩
    else (shortEscape? c).map fun plain => ⟨progress.tokens, .string (plain.toNat :: units)⟩
  | .code units value digits =>
    (hexValue? c).map fun digit =>
      if digits = 3 then ⟨progress.tokens, .string ((16 * value + digit) :: units)⟩
      else ⟨progress.tokens, .code units (16 * value + digit) (digits + 1)⟩

/-- The tokens of a whole text. -/
def finish (progress : Progress) : Option (List Token) :=
  match progress.mode with
  | .between => some progress.tokens.reverse
  | .word letters => (ofWord letters.reverse).map fun token => (token :: progress.tokens).reverse
  | .numeral chars =>
    (Numeral.read chars.reverse).map fun numeral => (.numeral numeral :: progress.tokens).reverse
  | .string _ | .escape _ | .code .. => none

def scan (chars : List Char) : Option (List Token) := (chars.foldlM step start).bind finish

end Token
end FleetQuery.Json
