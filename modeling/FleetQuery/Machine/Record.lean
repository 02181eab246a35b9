import FleetQuery.Json.Printer
import FleetQuery.Machine
import FleetQuery.Text.Quoted

/-!
# Machine records

A record is an object with any of the fields, or an array of all of them in order. Fields of an
object are read in the order of its members, so the first misshapen one is the one reported.
-/
namespace FleetQuery

/-- What a value should have been. -/
inductive Expected where
  | text
  | number
  | record
deriving DecidableEq

/-- Why a JSON value is not a list of machines. -/
inductive ShapeError where
  | unexpected (found : Json) (expected : Expected)
  | tooShort (length : Nat)
  | tooLong (length : Nat)

def Expected.description : Expected → String
  | text => "a string"
  | number => "f64"
  | record => "struct Machine"

namespace ShapeError

/-- A value by its kind, scalars with their content. -/
def describe : Json → String
  | .null => "null"
  | .bool value => if value then "boolean `true`" else "boolean `false`"
  | .number (.integer value) => "integer `" ++ toString value ++ "`"
  | .number (.float value) =>
    "floating point `" ++ (Json.number (.float value)).compact ++ "`"
  | .string value => "string " ++ Text.quoted value
  | .array _ => "sequence"
  | .object _ => "map"

def message : ShapeError → String
  | unexpected found expected =>
    "invalid type: " ++ describe found ++ ", expected " ++ expected.description
  | tooShort length =>
    "invalid length " ++ toString length ++ ", expected struct Machine with 12 elements"
  | tooLong length =>
    "invalid length " ++ toString length ++ ", expected fewer elements in array"

end ShapeError

namespace Machine

def readText : Json → Except ShapeError (Option String)
  | .null => .ok none
  | .string value => .ok (some value)
  | other => .error (.unexpected other .text)

def readNumber : Json → Except ShapeError (Option Binary64)
  | .null => .ok none
  | .number value => .ok (some value.toBinary64)
  | other => .error (.unexpected other .number)

/-- The machine with the field read from a value. -/
def withField (machine : Machine) (field : Field) (value : Json) : Except ShapeError Machine :=
  match field with
  | .computerName => (readText value).map fun text => { machine with computerName := text }
  | .role => (readText value).map fun text => { machine with role := text }
  | .osPlatform => (readText value).map fun text => { machine with osPlatform := text }
  | .osVersion => (readText value).map fun text => { machine with osVersion := text }
  | .groupName => (readText value).map fun text => { machine with groupName := text }
  | .location => (readText value).map fun text => { machine with location := text }
  | .diskFreeGb => (readNumber value).map fun number => { machine with diskFreeGb := number }
  | .memoryGb => (readNumber value).map fun number => { machine with memoryGb := number }
  | .cpuPercent => (readNumber value).map fun number => { machine with cpuPercent := number }
  | .complianceScore =>
    (readNumber value).map fun number => { machine with complianceScore := number }
  | .lastReboot => (readText value).map fun text => { machine with lastReboot := text }
  | .lastSeen => (readText value).map fun text => { machine with lastSeen := text }

def withFields (machine : Machine) (fields : List (Field × Json)) : Except ShapeError Machine :=
  fields.foldlM (fun built field => built.withField field.1 field.2) machine

/-- The members whose names are fields. -/
def knownFields (members : List (String × Json)) : List (Field × Json) :=
  members.filterMap fun member => (Field.ofName? member.1).map fun field => (field, member.2)

def ofJson : Json → Except ShapeError Machine
  | .object members => blank.withFields (knownFields members)
  | .array items => do
    let machine ← blank.withFields (Field.all.zip items)
    if items.length < Field.all.length then throw (.tooShort items.length)
    if Field.all.length < items.length then throw (.tooLong items.length)
    return machine
  | other => .error (.unexpected other .record)

end Machine
end FleetQuery
