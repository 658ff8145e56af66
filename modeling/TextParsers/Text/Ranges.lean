/-!
# Sets of characters given by ranges

A property of characters that comes as a table is kept as a list of ranges of
code points, in increasing order and with both ends included.
-/

namespace TextParsers.Text

/-- Whether the code point of a character lies in one of the ranges. -/
def inRanges (ranges : List (Nat × Nat)) (c : Char) : Bool :=
  ranges.any fun (low, high) => low ≤ c.toNat && c.toNat ≤ high

end TextParsers.Text
