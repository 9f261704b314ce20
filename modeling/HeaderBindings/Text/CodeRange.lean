/-!
# Tables of code points

A property of characters is given by the closed ranges of code points that have it.
-/

namespace HeaderBindings.Text

/-- Whether a code point lies in one of the ranges. -/
def inRanges (ranges : List (Nat × Nat)) (n : Nat) : Bool :=
  ranges.any fun range => range.1 ≤ n && n ≤ range.2

end HeaderBindings.Text
