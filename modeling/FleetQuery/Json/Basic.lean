import FleetQuery.Binary64.Arithmetic
import FleetQuery.Text.Order

/-!
# JSON values

Numbers keep the difference between integers and floating-point numbers, because they are written
differently. An object is a list of members; its canonical form has the members in the order of
their names, the last of several members of one name counting.
-/
namespace FleetQuery

namespace Json

inductive Number where
  | integer (value : Int)
  | float (value : Binary64)
deriving DecidableEq

def Number.toBinary64 : Number → Binary64
  | .integer value => .ofInt value
  | .float value => value

end Json

inductive Json where
  | null
  | bool (value : Bool)
  | number (value : Json.Number)
  | string (value : String)
  | array (items : List Json)
  | object (members : List (String × Json))

namespace Json

instance : Inhabited Json := ⟨null⟩

def ofNat (n : Nat) : Json := number (.integer n)

/-- A finite number, and null for anything else. -/
def ofBinary64 (value : Binary64) : Json :=
  if value.isFinite then number (.float value) else null

def ofOption {α : Type} (encode : α → Json) : Option α → Json
  | some value => encode value
  | none => null

def ofTexts (texts : List String) : Json := array (texts.map string)

/-! ### Canonical form -/

/-- Puts a member at the place of its name, over an earlier one of the same name. -/
def insertMember (name : String) (value : Json) : List (String × Json) → List (String × Json)
  | [] => [(name, value)]
  | member :: rest =>
    match Text.compareText name member.1 with
    | .lt => (name, value) :: member :: rest
    | .eq => (name, value) :: rest
    | .gt => member :: insertMember name value rest

def sortMembers (members : List (String × Json)) : List (String × Json) :=
  members.foldl (fun sorted member => insertMember member.1 member.2 sorted) []

mutual

/-- The value with every object's members in order. -/
def canonical : Json → Json
  | array items => array (canonicalItems items)
  | object members => object (sortMembers (canonicalMembers members))
  | null => null
  | bool value => bool value
  | number value => number value
  | string value => string value

def canonicalItems : List Json → List Json
  | [] => []
  | item :: rest => canonical item :: canonicalItems rest

def canonicalMembers : List (String × Json) → List (String × Json)
  | [] => []
  | (name, value) :: rest => (name, canonical value) :: canonicalMembers rest

end

/-- The value of the member `name`. -/
def member? (name : String) : Json → Option Json
  | object members => (members.find? fun member => member.1 == name).map Prod.snd
  | _ => none

end Json
end FleetQuery
