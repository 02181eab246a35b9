import FleetQuery.Execution
import FleetQuery.Files
import FleetQuery.Planning

/-!
# Failures

Why a request to the engine has no answer. Failures of the question itself are told apart from those
of the inventory, the registry and the files.
-/
namespace FleetQuery

inductive Failure where
  | question (error : ParseError)
  | unknownColumn (error : UnknownLabel)
  | execution (error : ExecutionError)
  | load (error : LoadError)
  | malformedJson
  | file (error : FileError)

namespace Failure

inductive Kind where
  | parse (kind : ParseError.Kind)
  | unknownColumn
  | unsupportedAggregate
  | plan
  | inventory
  | json
  | file
deriving DecidableEq

def kind : Failure → Kind
  | question error => .parse error.kind
  | unknownColumn _ => .unknownColumn
  | execution (.unsupportedAggregate _) | execution (.tooManyCells _) => .unsupportedAggregate
  | execution (.needsMachines _) | execution (.needsTable _) => .plan
  | load .notAnArray => .inventory
  | load (.shape _) | malformedJson => .json
  | file _ => .file

def message : Failure → String
  | question error => error.message
  | unknownColumn error => "Unknown column '" ++ error.label ++ "'"
  | execution (.unsupportedAggregate name) => "Unsupported aggregation '" ++ name ++ "'"
  | execution (.tooManyCells error) => "Unsupported aggregation '" ++ error.message ++ "'"
  | execution (.needsMachines step) => "Invalid plan: " ++ step ++ " expects machine rows"
  | execution (.needsTable step) => "Invalid plan: " ++ step ++ " expects a projected table"
  | load .notAnArray =>
    "Inventory unavailable: inventory JSON does not contain an array in the root"
  | load (.shape error) => "JSON error: " ++ error.message
  | malformedJson => "JSON error: malformed text"
  | file error => "I/O error: " ++ error.message

/-- Where in the question the failure lies. -/
def position? : Failure → Option Nat
  | question error => some error.span.start
  | _ => none

/-- Whether the question is at fault. -/
def isOfQuestion : Failure → Bool
  | question _ | unknownColumn _ => true
  | execution (.unsupportedAggregate _) | execution (.tooManyCells _) => true
  | _ => false

end Failure
end FleetQuery
