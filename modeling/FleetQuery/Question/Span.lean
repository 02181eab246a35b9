/-!
# Spans

A span is a half-open range of characters of a question, counted from its first character.
-/
namespace FleetQuery

structure Span where
  start : Nat
  stop : Nat
  ordered : start ≤ stop
deriving DecidableEq

namespace Span

/-- The span between two positions, empty at `start` if they are out of order. -/
def between (start stop : Nat) : Span := ⟨start, max start stop, Nat.le_max_left ..⟩

instance : Inhabited Span := ⟨between 0 0⟩

def length (span : Span) : Nat := span.stop - span.start

def isEmpty (span : Span) : Bool := span.start == span.stop

theorem isEmpty_iff (span : Span) : span.isEmpty = true ↔ span.length = 0 := by
  have := span.ordered
  simp [isEmpty, length]
  omega

end Span
end FleetQuery
