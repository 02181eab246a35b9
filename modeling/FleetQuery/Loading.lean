import FleetQuery.Failure
import FleetQuery.Json.Tree

/-!
# Loading

What may be asked of an inventory: to load machines from a JSON value or from a file, and to clear it.
-/
namespace FleetQuery.Inventory

inductive Request where
  /-- Load the machines of a JSON array, after the present ones if they are kept. -/
  | load (value : Json) (keep : Bool)
  /-- Load the machines in a file in place of the present ones. -/
  | loadFile (path : String)
  | clear

variable {m : Type → Type} [Monad m] [Files m]

/-- The JSON value in the file at `path`. -/
def readFile (path : String) : m (Except Failure Json) := do
  match ← Files.readText path with
  | .error error => return .error (.file error)
  | .ok text =>
    match Json.ofText? text with
    | none => return .error .malformedJson
    | some value => return .ok value

def loadFile (path : String) : StateT Inventory m (Except Failure Nat) := do
  match ← (readFile path : m (Except Failure Json)) with
  | .error failure => return .error failure
  | .ok value => return (← loadJson value false).mapError .load

/-- Carries out a request. A load says how many machines came. -/
def perform : Request → StateT Inventory m (Except Failure (Option Nat))
  | .load value keep => return ((← loadJson value keep).mapError .load).map some
  | .loadFile path => return (← loadFile path).map some
  | .clear => do
    clear
    return .ok none

end FleetQuery.Inventory
