/-!
# Character classes

A class of characters is a list of ranges of code points, both ends included.
-/

namespace FilterLanguage

abbrev CharRanges := List (Nat × Nat)

/-- The code point of `c` lies in one of the ranges. -/
def CharRanges.has (ranges : CharRanges) (c : Char) : Bool :=
  ranges.any fun range => range.1 ≤ c.toNat && c.toNat ≤ range.2

end FilterLanguage
