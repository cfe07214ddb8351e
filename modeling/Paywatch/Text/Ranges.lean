/-!
# Sets of characters as ranges

A set of characters is written as the list of its runs, each with its first and
its last code point.
-/

namespace Paywatch

namespace Text

def inRanges (ranges : List (Nat × Nat)) (c : Char) : Bool :=
  ranges.any fun (first, last) => first ≤ c.toNat && c.toNat ≤ last

end Text

end Paywatch
