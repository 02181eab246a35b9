import FleetQuery.Field
import FleetQuery.KeyedList
import FleetQuery.Text.Blank
import FleetQuery.Text.LowerCase

/-!
# Catalog

The catalog says which field a label names and which group an alias stands for. Labels and aliases
are looked up without blanks around them and in lower case.
-/
namespace FleetQuery

structure Catalog where
  fields : KeyedList Field
  groups : KeyedList String

namespace Catalog

/-- The form under which a label is kept. -/
def normalize (label : String) : String := Text.lower (Text.trim label)

def normalizeKeys {α : Type} (pairs : List (String × α)) : List (String × α) :=
  pairs.map fun pair => (normalize pair.1, pair.2)

/-- A later label wins over an earlier one with the same normal form. -/
def ofLists (fields : List (String × Field)) (groups : List (String × String)) : Catalog where
  fields := .ofList (normalizeKeys fields)
  groups := .ofList (normalizeKeys groups)

def standardFields : List (String × Field) :=
  [("computer name", .computerName),
   ("computer role", .role),
   ("role", .role),
   ("operating system", .osPlatform),
   ("os platform", .osPlatform),
   ("os version", .osVersion),
   ("disk free gb", .diskFreeGb),
   ("memory gb", .memoryGb),
   ("cpu percent", .cpuPercent),
   ("compliance score", .complianceScore),
   ("group", .groupName),
   ("group name", .groupName),
   ("location", .location),
   ("last reboot", .lastReboot),
   ("last seen", .lastSeen)]

def standardGroups : List (String × String) :=
  [("laptops", "Laptops"),
   ("servers", "Data Center Servers"),
   ("finance", "Finance Workstations"),
   ("finance workstations", "Finance Workstations"),
   ("canary", "Canary Cohort"),
   ("engineering lab", "Engineering Lab")]

def standard : Catalog := ofLists standardFields standardGroups

/-- The catalog with further group aliases over its own. -/
def withGroups (catalog : Catalog) (extra : List (String × String)) : Catalog :=
  { catalog with groups := catalog.groups.insertAll (normalizeKeys extra) }

def field? (catalog : Catalog) (label : String) : Option Field :=
  catalog.fields.get? (normalize label)

/-- The group that `name` stands for, or `name` itself. -/
def resolveGroup (catalog : Catalog) (name : String) : String :=
  (catalog.groups.get? (normalize name)).getD name

end Catalog
end FleetQuery
