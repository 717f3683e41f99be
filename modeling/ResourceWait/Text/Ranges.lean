/-!
# Character classes as ranges

A class of characters is given by the ranges of its code points.
-/

namespace ResourceWait.Text

/-- Whether a character lies in one of some ranges, whose ends belong to them. -/
def inRanges (ranges : List (Nat × Nat)) (c : Char) : Bool :=
  ranges.any fun (first, last) => first ≤ c.toNat && c.toNat ≤ last

end ResourceWait.Text
