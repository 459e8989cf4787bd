/-!
# Ranges of characters

A class of characters is a list of ranges of code points, in order and apart from each other.
-/
namespace JsonShape.Unicode

/-- Whether a code point lies in one of some ranges, both ends of which belong to it. -/
def inRanges (ranges : List (Nat × Nat)) (code : Nat) : Bool :=
  ranges.any fun range => range.1 ≤ code && code ≤ range.2

end JsonShape.Unicode
