/-!
# Binary floating-point numbers

A 64-bit binary floating-point number is not a number, an infinity, or a sign with one of finitely
many magnitudes. Magnitudes are held by rank: the place in the increasing list of all finite
magnitudes, which starts with zero. Two consecutive ranks are therefore two neighbouring numbers,
magnitudes compare as their ranks do, and a significand is even exactly when its rank is.
-/
namespace FleetQuery

/-- The number of finite magnitudes: 2047 exponents with `2 ^ 52` significands each. -/
def Binary64.magnitudes : Nat := 2047 * Nat.pow 2 52

inductive Binary64 where
  | nan
  | infinite (negative : Bool)
  | finite (negative : Bool) (rank : Fin Binary64.magnitudes)
deriving DecidableEq

namespace Binary64

def zero (negative : Bool) : Binary64 := .finite negative ⟨0, by decide⟩

instance : Inhabited Binary64 := ⟨zero false⟩

/-- The magnitude of a rank in units of `2 ^ -1074`. Ranks up to `2 ^ 53` are their own magnitude,
and each further block of `2 ^ 52` ranks doubles the distance between neighbours. -/
def magnitude (rank : Nat) : Nat :=
  if rank < Nat.pow 2 52 then rank
  else (Nat.pow 2 52 + rank % Nat.pow 2 52) * Nat.pow 2 (rank / Nat.pow 2 52 - 1)

/-- Units in one. -/
def unitsInOne : Nat := Nat.pow 2 1074

def isFinite : Binary64 → Bool
  | finite .. => true
  | _ => false

def isZero : Binary64 → Bool
  | finite _ rank => rank.val == 0
  | _ => false

def neg : Binary64 → Binary64
  | nan => nan
  | infinite negative => infinite (!negative)
  | finite negative rank => finite (!negative) rank

/-- The finite value in units of `2 ^ -1074`. -/
def units (negative : Bool) (rank : Nat) : Int :=
  if negative then -(magnitude rank : Int) else magnitude rank

/-- The place on the number line, the two zeros sharing one; not a number has none. -/
def place : Binary64 → Option Int
  | nan => none
  | infinite negative => some (if negative then -(magnitudes : Int) else magnitudes)
  | finite negative rank => some (if negative then -(rank.val : Int) else rank.val)

/-- The numeric order; nothing is below or above what is not a number. -/
def lt (left right : Binary64) : Bool :=
  match left.place, right.place with
  | some l, some r => l < r
  | _, _ => false

/-- The numeric order completed: not a number is above everything else and equal to itself. -/
def compareTotal (left right : Binary64) : Ordering :=
  match left.place, right.place with
  | some l, some r => compare l r
  | some _, none => .lt
  | none, some _ => .gt
  | none, none => .eq

/-- The interchange encoding: a sign bit above the rank, the infinities following the finite ranks.
What is not a number has many encodings, so none is given. -/
def encoding? : Binary64 → Option Nat
  | nan => none
  | infinite negative => some ((if negative then Nat.pow 2 63 else 0) + magnitudes)
  | finite negative rank => some ((if negative then Nat.pow 2 63 else 0) + rank.val)

end Binary64
end FleetQuery
