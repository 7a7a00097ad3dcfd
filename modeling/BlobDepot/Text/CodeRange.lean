/-! # Ranges of code points

A class of characters, given as the ranges that its code points fill.
-/

namespace BlobDepot.Text

/-- The code point of a character lies in one of the ranges, both ends of a range
    being part of it. -/
def inRanges (ranges : List (Nat × Nat)) (c : Char) : Bool :=
  ranges.any fun (lo, hi) => lo ≤ c.toNat && c.toNat ≤ hi

end BlobDepot.Text
