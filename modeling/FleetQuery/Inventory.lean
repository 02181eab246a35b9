import FleetQuery.Machine.Record

/-!
# Inventory

The machines that questions are asked about, in the order in which they were loaded. Loading changes
the inventory step by step, and nothing that was changed is taken back.
-/
namespace FleetQuery

structure Inventory where
  machines : List Machine
deriving DecidableEq, Inhabited

/-- Why a JSON value was not loaded. -/
inductive LoadError where
  | notAnArray
  | shape (error : ShapeError)

namespace Inventory

def empty : Inventory := ⟨[]⟩

/-- The machines of a JSON array. -/
def readMachines : Json → Except LoadError (List Machine)
  | .array items => (items.mapM Machine.ofJson).mapError .shape
  | _ => .error .notAnArray

section

variable {m : Type → Type} [Monad m]

def clear : StateT Inventory m Unit := set empty

/-- Adds machines after the present ones and says how many came. -/
def addBatch (machines : List Machine) : StateT Inventory m Nat := do
  modify fun inventory => ⟨inventory.machines ++ machines⟩
  return machines.length

/-- Loads the machines of a JSON array, after the present ones or in their place, and says how many
came. The whole array is read before the present machines go. -/
def loadJson (value : Json) (keep : Bool) : StateT Inventory m (Except LoadError Nat) := do
  match readMachines value with
  | .error error => return .error error
  | .ok machines =>
    unless keep do clear
    return .ok (← addBatch machines)

end

/-- The inventory after a load, unless the value is refused, and how many machines came. -/
def load (inventory : Inventory) (value : Json) (keep : Bool) :
    Except LoadError (Inventory × Nat) :=
  let (result, loaded) := Id.run ((loadJson value keep).run inventory)
  result.map fun count => (loaded, count)

def toJson (inventory : Inventory) : Json := .array (inventory.machines.map Machine.toJson)

/-! ### The sample -/

/-- A machine with all attributes, the numbers in decimal text. -/
def sampleMachine (computerName role osPlatform osVersion groupName location : String)
    (diskFreeGb memoryGb cpuPercent complianceScore : String) (lastReboot lastSeen : String) :
    Machine where
  computerName := some computerName
  role := some role
  osPlatform := some osPlatform
  osVersion := some osVersion
  groupName := some groupName
  location := some location
  diskFreeGb := Cell.readNumber diskFreeGb
  memoryGb := Cell.readNumber memoryGb
  cpuPercent := Cell.readNumber cpuPercent
  complianceScore := Cell.readNumber complianceScore
  lastReboot := some lastReboot
  lastSeen := some lastSeen

/-- Eleven machines to ask about when no inventory is given. -/
def sample : Inventory where
  machines :=
    [sampleMachine "LAPTOP-001" "Workstation" "Windows 11" "22H2" "Laptops" "NA-US"
       "68.2" "16.0" "32.5" "0.87" "2024-05-18" "2024-05-20",
     sampleMachine "LAPTOP-002" "Workstation" "Windows 10" "21H2" "Laptops" "NA-US"
       "45.4" "8.0" "74.3" "0.62" "2024-05-16" "2024-05-19",
     sampleMachine "LAPTOP-003" "Workstation" "Windows 11" "23H1" "Finance Workstations" "NA-US"
       "120.1" "16.0" "18.9" "0.92" "2024-05-14" "2024-05-18",
     sampleMachine "SERVER-API-01" "Server" "Windows Server 2019" "2019" "Data Center Servers"
       "NA-US" "512.4" "64.0" "42.1" "0.95" "2024-05-12" "2024-05-17",
     sampleMachine "SERVER-SQL-01" "Server" "Windows Server 2022" "2022" "Data Center Servers"
       "NA-US" "312.9" "128.0" "55.3" "0.89" "2024-05-13" "2024-05-17",
     sampleMachine "SRV-LNX-01" "Server" "Linux" "RHEL 9" "Data Center Servers" "EU-DE"
       "212.5" "32.0" "21.7" "0.91" "2024-05-11" "2024-05-15",
     sampleMachine "MAC-OPS-01" "Workstation" "macOS" "14.4" "Operations" "NA-US"
       "180.7" "32.0" "23.4" "0.88" "2024-05-18" "2024-05-20",
     sampleMachine "MAC-FIN-02" "Workstation" "macOS" "13.6" "Finance Workstations" "NA-US"
       "102.6" "16.0" "26.1" "0.93" "2024-05-15" "2024-05-18",
     sampleMachine "ENG-LAB-01" "Workstation" "Windows 11" "22H2" "Engineering Lab" "NA-US"
       "250.8" "32.0" "65.2" "0.77" "2024-05-15" "2024-05-18",
     sampleMachine "ENG-LAB-02" "Workstation" "Windows 11" "22H2" "Engineering Lab" "NA-US"
       "198.4" "32.0" "58.4" "0.75" "2024-05-15" "2024-05-18",
     sampleMachine "CANARY-EDGE" "Workstation" "Windows 11" "23H1" "Canary Cohort" "NA-US"
       "156.4" "16.0" "12.4" "0.98" "2024-05-19" "2024-05-20"]

end Inventory
end FleetQuery
