/-!
# Sets of code points as range bounds

A set of code points is given by an ascending list of bounds: it begins at the first, ends
before the second, begins again at the third, and so on. A code point is in the set when an
odd number of bounds are at most that code point.
-/

set_option autoImplicit false

namespace UnitReview

/-- Whether `n` lies in the set with the given bounds. -/
def inRanges (bounds : Array Nat) (n : Nat) : Bool :=
  bounds.foldl (fun inside b => if b ≤ n then !inside else inside) false

end UnitReview
