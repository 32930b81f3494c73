/-!
# Ranges of code points

Character classes are kept as lists of closed ranges, sorted and disjoint.
-/

namespace PlotStream.Text

/-- Whether a code point lies in one of the ranges. -/
def inRanges (table : List (Nat × Nat)) (c : Nat) : Bool :=
  table.any fun (low, high) => low ≤ c && c ≤ high

end PlotStream.Text
