/-!
# Fields

The attributes that every machine of the inventory has, each holding text or a number.
-/
namespace FleetQuery

inductive Field where
  | computerName
  | role
  | osPlatform
  | osVersion
  | groupName
  | location
  | diskFreeGb
  | memoryGb
  | cpuPercent
  | complianceScore
  | lastReboot
  | lastSeen
deriving DecidableEq

namespace Field

/-- All fields, in the order in which a record lists them. -/
def all : List Field :=
  [computerName, role, osPlatform, osVersion, groupName, location, diskFreeGb, memoryGb,
   cpuPercent, complianceScore, lastReboot, lastSeen]

/-- The name of the field in an inventory record. -/
def name : Field → String
  | computerName => "computer_name"
  | role => "role"
  | osPlatform => "os_platform"
  | osVersion => "os_version"
  | groupName => "group_name"
  | location => "location"
  | diskFreeGb => "disk_free_gb"
  | memoryGb => "memory_gb"
  | cpuPercent => "cpu_percent"
  | complianceScore => "compliance_score"
  | lastReboot => "last_reboot"
  | lastSeen => "last_seen"

def isNumeric : Field → Bool
  | diskFreeGb | memoryGb | cpuPercent | complianceScore => true
  | _ => false

def ofName? (name : String) : Option Field := all.find? fun field => field.name == name

theorem mem_all (field : Field) : field ∈ all := by cases field <;> simp [all]

end Field
end FleetQuery
