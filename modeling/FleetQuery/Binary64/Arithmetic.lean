import FleetQuery.Binary64.Rounding

/-!
# Arithmetic

Each operation is the exact result on the operands, rounded once. An exact zero is positive unless
both operands of a sum are negative, or the signs of a product or quotient differ.
-/
namespace FleetQuery.Binary64

/-- The number nearest to a sum given in units. -/
def ofUnits (negativeZero : Bool) (units : Int) : Binary64 :=
  if units = 0 then zero negativeZero else ofRatio (units < 0) units.natAbs unitsInOne

def add : Binary64 → Binary64 → Binary64
  | nan, _ => nan
  | _, nan => nan
  | infinite l, infinite r => if l = r then infinite l else nan
  | infinite l, finite .. => infinite l
  | finite .., infinite r => infinite r
  | finite l a, finite r b => ofUnits (l && r) (units l a + units r b)

def mul : Binary64 → Binary64 → Binary64
  | nan, _ => nan
  | _, nan => nan
  | infinite l, infinite r => infinite (l != r)
  | infinite l, finite r b => if b.val = 0 then nan else infinite (l != r)
  | finite l a, infinite r => if a.val = 0 then nan else infinite (l != r)
  | finite l a, finite r b =>
    ofRatio (l != r) (magnitude a * magnitude b) (unitsInOne * unitsInOne)

def div : Binary64 → Binary64 → Binary64
  | nan, _ => nan
  | _, nan => nan
  | infinite _, infinite _ => nan
  | infinite l, finite r _ => infinite (l != r)
  | finite l _, infinite r => zero (l != r)
  | finite l a, finite r b =>
    if b.val = 0 then (if a.val = 0 then nan else infinite (l != r))
    else ofRatio (l != r) (magnitude a) (magnitude b)

/-- The number nearest to the thousandth nearest to `x`, which is the even one at a tie. The exact
value of `x` decides, not its shortest decimal form. -/
def roundToThousandths : Binary64 → Binary64
  | finite negative rank =>
    let scaled := 1000 * magnitude rank
    let down := scaled / unitsInOne
    let excess := 2 * (scaled % unitsInOne)
    let thousandths :=
      if excess < unitsInOne then down
      else if unitsInOne < excess then down + 1
      else if down % 2 = 0 then down else down + 1
    ofRatio negative thousandths 1000
  | x => x

end FleetQuery.Binary64
