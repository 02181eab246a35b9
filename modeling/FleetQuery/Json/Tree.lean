import FleetQuery.Json.Token

/-!
# JSON text, read

The tokens of a text are folded into a syntax tree, which keeps the order of members, repeated
names and the spelling of numbers. From the tree a value is taken, or a record with known fields.
Only what is taken has to make sense: a number out of range or half a surrogate pair inside a member
that nobody asks for does no harm.
-/
namespace FleetQuery.Json

/-- The shape of a text. Texts and names are missing if they hold half of a surrogate pair. -/
inductive Tree where
  | null
  | bool (value : Bool)
  | numeral (numeral : Numeral)
  | string (text : Option String)
  | array (items : List Tree)
  | object (members : List (Option String × Tree))

namespace Tree

/-! ### From tokens to the tree -/

/-- A container that is open: what it holds so far, in reverse. -/
inductive Frame where
  | array (items : List Tree)
  | object (members : List (Option String × Tree)) (name : Option String)

/-- What the next token has to be, with the open containers from the inside out. -/
inductive Expecting where
  | value (frames : List Frame)
  | firstItem (frames : List Frame)
  | firstName (frames : List Frame)
  | name (frames : List Frame) (members : List (Option String × Tree))
  | colon (frames : List Frame) (members : List (Option String × Tree)) (name : Option String)
  | separator (frames : List Frame) (value : Tree)

/-- A token that begins a value. -/
def beginValue (frames : List Frame) : Token → Option Expecting
  | .null => some (.separator frames .null)
  | .bool value => some (.separator frames (.bool value))
  | .numeral written => some (.separator frames (.numeral written))
  | .string text => some (.separator frames (.string text))
  | .beginArray => some (.firstItem frames)
  | .beginObject => some (.firstName frames)
  | .endArray | .endObject | .comma | .colon => none

/-- A token after a finished value. -/
def endValue (value : Tree) : List Frame → Token → Option Expecting
  | .array items :: frames, .comma => some (.value (.array (value :: items) :: frames))
  | .array items :: frames, .endArray =>
    some (.separator frames (.array (value :: items).reverse))
  | .object members name :: frames, .comma => some (.name frames ((name, value) :: members))
  | .object members name :: frames, .endObject =>
    some (.separator frames (.object ((name, value) :: members).reverse))
  | _, _ => none

def step : Expecting → Token → Option Expecting
  | .value frames, token => beginValue frames token
  | .firstItem frames, .endArray => some (.separator frames (.array []))
  | .firstItem frames, token => beginValue (.array [] :: frames) token
  | .firstName frames, .endObject => some (.separator frames (.object []))
  | .firstName frames, .string name => some (.colon frames [] name)
  | .firstName _, _ => none
  | .name frames members, .string name => some (.colon frames members name)
  | .name .., _ => none
  | .colon frames members name, .colon => some (.value (.object members name :: frames))
  | .colon .., _ => none
  | .separator frames value, token => endValue value frames token

def ofTokens? (tokens : List Token) : Option Tree :=
  match tokens.foldlM step (.value []) with
  | some (.separator [] value) => some value
  | _ => none

/-- The tree of a text. -/
def ofText? (text : String) : Option Tree := (Token.scan text.toList).bind ofTokens?

/-! ### From the tree to values -/

mutual

/-- The number of containers around the innermost value. -/
def depth : Tree → Nat
  | array items => itemsDepth items + 1
  | object members => membersDepth members + 1
  | null | bool _ | numeral _ | string _ => 0

def itemsDepth : List Tree → Nat
  | [] => 0
  | item :: rest => max (depth item) (itemsDepth rest)

def membersDepth : List (Option String × Tree) → Nat
  | [] => 0
  | (_, value) :: rest => max (depth value) (membersDepth rest)

end

mutual

/-- The value with members in the order of the text. -/
def value? : Tree → Option Json
  | null => some .null
  | bool value => some (.bool value)
  | numeral written => written.value?.map .number
  | string text => text.map .string
  | array items => (itemValues? items).map .array
  | object members => (memberValues? members).map .object

def itemValues? : List Tree → Option (List Json)
  | [] => some []
  | item :: rest => do return (← value? item) :: (← itemValues? rest)

def memberValues? : List (Option String × Tree) → Option (List (String × Json))
  | [] => some []
  | (name, value) :: rest => do return (← name, ← value? value) :: (← memberValues? rest)

end

/-- Containers may be nested this deep. -/
def deepest : Nat := 127

/-- The text of a string. -/
def text? : Tree → Option String
  | string text => text
  | _ => none

/-! ### Records -/

/-- The members of known names. An unknown name is passed over; a name that is no text, or a known
one that comes twice, is refused. -/
def knownMembers (names : List String) :
    List (String × Tree) → List (Option String × Tree) → Option (List (String × Tree))
  | found, [] => some found
  | _, (none, _) :: _ => none
  | found, (some name, value) :: rest =>
    if names.contains name then
      if found.any fun member => member.1 == name then none
      else knownMembers names ((name, value) :: found) rest
    else knownMembers names found rest

/-- The fields of a record that is written as an object, or as an array in the order of `names`. -/
def record? (names : List String) : Tree → Option (List (String × Tree))
  | object members => knownMembers names [] members
  | array items => if items.length ≤ names.length then some (names.zip items) else none
  | _ => none

end Tree

/-- The value that a text denotes, in canonical form. -/
def ofText? (text : String) : Option Json := do
  let tree ← Tree.ofText? text
  guard (tree.depth ≤ Tree.deepest)
  let value ← tree.value?
  return value.canonical

end FleetQuery.Json
