/-!
# Sets of characters

A set of characters is given by ascending ranges of code points, both ends
included.
-/

namespace TestImpact.Text

abbrev CodePoints := List (Nat × Nat)

def CodePoints.contains (ranges : CodePoints) (c : Char) : Bool :=
  ranges.any fun (first, last) => first ≤ c.toNat && c.toNat ≤ last

end TestImpact.Text
