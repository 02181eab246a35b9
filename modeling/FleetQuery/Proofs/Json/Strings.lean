import FleetQuery.Json.Printer
import FleetQuery.Json.Token
import Mathlib.Tactic.SplitIfs

/-!
# Texts in JSON

A text is printed between quotes with escapes, and read back as it was, whatever characters it has.
Main statement: `steps_printString`.
-/
namespace FleetQuery.Json.Token

/-! ### Characters and code units -/

theorem hexValue?_hexDigit : ∀ n < 16, hexValue? (hexDigit n) = some n := by decide

/-- No character is half of a surrogate pair. -/
theorem not_surrogate (c : Char) : c.toNat < 0xD800 ∨ 0xE000 ≤ c.toNat := by
  rcases c.valid with low | high
  · exact .inl low
  · exact .inr (Nat.le_of_lt_succ (Nat.succ_lt_succ high.1))

/-- Characters are the units that they stand for. -/
theorem decodeUnits_map_toNat (chars : List Char) :
    decodeUnits (chars.map Char.toNat) = some chars := by
  induction chars with
  | nil => rfl
  | cons c rest ih =>
    have plain := not_surrogate c
    -- a unit before another one is looked at together with it
    cases rest with
    | nil =>
      rw [List.map_singleton, decodeUnits, if_neg (by omega), Char.ofNat_toNat]
    | cons d rest =>
      rw [List.map_cons] at ih
      rw [List.map_cons, List.map_cons, decodeUnits, if_neg (by omega), if_neg (by omega), ih,
        Option.map_some, Char.ofNat_toNat]

/-! ### Steps -/

/-- The state after some more characters. -/
def steps (progress : Progress) (chars : List Char) : Option Progress := chars.foldlM step progress

theorem steps_append (progress : Progress) (left right : List Char) :
    steps progress (left ++ right) = (steps progress left).bind fun later => steps later right :=
  List.foldlM_append

theorem steps_cons (progress : Progress) (c : Char) (rest : List Char) :
    steps progress (c :: rest) = (step progress c).bind fun later => steps later rest :=
  List.foldlM_cons

variable (tokens : List Token) (units : List Nat)

/-- A control is read back from its code. -/
theorem steps_code {high low : Nat} (first : high < 16) (second : low < 16) :
    steps ⟨tokens, .string units⟩ ['\\', 'u', '0', '0', hexDigit high, hexDigit low] =
      some ⟨tokens, .string ((16 * high + low) :: units)⟩ := by
  have upper := hexValue?_hexDigit high first
  have lower := hexValue?_hexDigit low second
  have zero : hexValue? '0' = some 0 := rfl
  simp [steps, step, zero, upper, lower]

theorem steps_escapeChar (c : Char) : steps ⟨tokens, .string units⟩ (escapeChar c) =
    some ⟨tokens, .string (c.toNat :: units)⟩ := by
  rw [escapeChar]
  split_ifs with quote backslash newline carriage tab backspace feed control
  -- the short escapes
  · subst quote; rfl
  · subst backslash; rfl
  · subst newline; rfl
  · subst carriage; rfl
  · subst tab; rfl
  · subst backspace; rfl
  · subst feed; rfl
  -- any other control is below 32
  · have upper : c.toNat / 16 < 16 := by omega
    have lower : c.toNat % 16 < 16 := by omega
    have code := steps_code tokens units upper lower
    rwa [Nat.div_add_mod] at code
  · simp [steps, step, quote, backslash, control]

theorem steps_flatMap_escapeChar (chars : List Char) :
    steps ⟨tokens, .string units⟩ (chars.flatMap escapeChar) =
      some ⟨tokens, .string ((chars.map Char.toNat).reverse ++ units)⟩ := by
  induction chars generalizing units with
  | nil => rfl
  | cons c rest ih =>
    rw [List.flatMap_cons, steps_append, steps_escapeChar, Option.bind_some, ih]
    simp

/-- A printed text is one token, the text itself. -/
theorem steps_printString (text : String) :
    steps ⟨tokens, .between⟩ (printString text) =
      some ⟨.string (some text) :: tokens, .between⟩ := by
  have opens : step ⟨tokens, .between⟩ '"' = some ⟨tokens, .string []⟩ := rfl
  rw [printString, List.cons_append, steps_cons, opens, Option.bind_some, steps_append,
    steps_flatMap_escapeChar, Option.bind_some, List.append_nil]
  have closes : step ⟨tokens, .string (text.toList.map Char.toNat).reverse⟩ '"' =
      some ⟨.string (some text) :: tokens, .between⟩ := by
    simp only [step, if_pos, List.reverse_reverse, decodeUnits_map_toNat, Option.map_some,
      String.ofList_toList]
  rw [steps_cons, closes]
  rfl

end FleetQuery.Json.Token
