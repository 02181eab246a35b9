/-!
# Order of texts

Texts are ordered by the code points of their characters, a proper beginning coming first.
-/
namespace FleetQuery.Text

def compareChars : List Char → List Char → Ordering
  | [], [] => .eq
  | [], _ :: _ => .lt
  | _ :: _, [] => .gt
  | a :: as, b :: bs => (compare a.toNat b.toNat).then (compareChars as bs)

def compareText (left right : String) : Ordering := compareChars left.toList right.toList

end FleetQuery.Text
