import FleetQuery.Cell
import FleetQuery.Field

/-!
# Machines

One record of the inventory. Any attribute may be missing.
-/
namespace FleetQuery

structure Machine where
  computerName : Option String
  role : Option String
  osPlatform : Option String
  osVersion : Option String
  groupName : Option String
  location : Option String
  diskFreeGb : Option Binary64
  memoryGb : Option Binary64
  cpuPercent : Option Binary64
  complianceScore : Option Binary64
  lastReboot : Option String
  lastSeen : Option String
deriving DecidableEq, Inhabited

namespace Machine

/-- The machine without any attribute. -/
def blank : Machine where
  computerName := none
  role := none
  osPlatform := none
  osVersion := none
  groupName := none
  location := none
  diskFreeGb := none
  memoryGb := none
  cpuPercent := none
  complianceScore := none
  lastReboot := none
  lastSeen := none

def textCell : Option String → Cell
  | some value => .text value
  | none => .null

def numberCell : Option Binary64 → Cell
  | some value => .number value
  | none => .null

/-- The cell of a field. -/
def cell (machine : Machine) : Field → Cell
  | .computerName => textCell machine.computerName
  | .role => textCell machine.role
  | .osPlatform => textCell machine.osPlatform
  | .osVersion => textCell machine.osVersion
  | .groupName => textCell machine.groupName
  | .location => textCell machine.location
  | .diskFreeGb => numberCell machine.diskFreeGb
  | .memoryGb => numberCell machine.memoryGb
  | .cpuPercent => numberCell machine.cpuPercent
  | .complianceScore => numberCell machine.complianceScore
  | .lastReboot => textCell machine.lastReboot
  | .lastSeen => textCell machine.lastSeen

/-- The record of a machine with all its fields, numbers in full. -/
def toJson (machine : Machine) : Json :=
  .object <| Field.all.map fun field =>
    (field.name,
      match machine.cell field with
      | .null => .null
      | .text value => .string value
      | .number value => .ofBinary64 value)

end Machine
end FleetQuery
