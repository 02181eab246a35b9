import FleetQuery.Text.LowerCase.Table

/-!
# Lower case

Lower-casing follows Unicode's full mapping. One character, the dotted capital I, becomes two, and
a capital sigma becomes the final form at the end of a word. All other characters map on their own.
-/
namespace FleetQuery.Text

def isCased (c : Char) : Bool := inRanges casedRanges c.toNat

def isCaseIgnorable (c : Char) : Bool := inRanges caseIgnorableRanges c.toNat

/-- The lower form of one character outside a text. -/
def lowerChar (c : Char) : List Char :=
  if c.toNat < 128 then [c.toLower]
  else if c.toNat = 0x130 then ['i', Char.ofNat 0x307]
  else match caseRuns.find? fun run => run.contains c.toNat with
    | some run => [Char.ofNat (run.lowered + (c.toNat - run.first))]
    | none => [c]

/-- Whether the first character that a word boundary does not look through is a cased one. -/
def reachesCased (chars : List Char) : Bool :=
  match chars.dropWhile isCaseIgnorable with
  | [] => false
  | c :: _ => isCased c

/-- The lower form of a capital sigma between `before`, held in reverse, and `after`. -/
def lowerSigma (before after : List Char) : Char :=
  if reachesCased before && !reachesCased after then 'ς' else 'σ'

/-- The lower form of the characters that follow `before`, which is held in reverse. -/
def lowerFrom (before : List Char) : List Char → List Char
  | [] => []
  | c :: rest =>
    (if c = 'Σ' then [lowerSigma before rest] else lowerChar c) ++ lowerFrom (c :: before) rest

def lowerChars (chars : List Char) : List Char := lowerFrom [] chars

def lower (text : String) : String := String.ofList (lowerChars text.toList)

/-- The text with its ASCII letters in lower case and all else as it is. -/
def lowerAscii (text : String) : String := String.ofList (text.toList.map Char.toLower)

/-- Equality up to the case of ASCII letters. -/
def sameIgnoringAsciiCase (left right : List Char) : Bool :=
  left.map Char.toLower == right.map Char.toLower

theorem lowerChar_ascii (c : Char) (ascii : c.toNat < 128) : lowerChar c = [c.toLower] := by
  simp [lowerChar, ascii]

theorem toList_lower (text : String) : (lower text).toList = lowerChars text.toList := by
  simp [lower]

end FleetQuery.Text
