/-!
# Ranges of code points

Tables of characters are kept as closed ranges of code points.
-/

namespace TagSearch.Text

/-- Whether the code point of a character lies in one of the given closed ranges. -/
def inRanges (ranges : List (Nat × Nat)) (c : Char) : Bool :=
  ranges.any fun (lo, hi) => lo ≤ c.toNat && c.toNat ≤ hi

end TagSearch.Text
