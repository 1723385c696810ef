/-!
Sets of characters that are given by ranges of code points, as the tables of the Unicode standard
give them.
-/

namespace CommandBot.Text

/-- The character lies in one of the ranges, each given by its first and its last code point. -/
def inRanges (ranges : Array (Nat × Nat)) (c : Char) : Bool :=
  ranges.any fun (first, last) => first ≤ c.toNat && c.toNat ≤ last

end CommandBot.Text
