/-!
# Ranges of code points

A property of characters is given as a list of closed ranges of code points, ascending
and apart from one another.  `inRanges` looks a code point up, and stops at the first
range that lies above it.
-/

namespace RoundWorkflow.Text

/-- Whether a code point is in one of some ranges, which ascend. -/
def inRanges (n : Nat) : List (Nat × Nat) → Bool
  | [] => false
  | (low, high) :: rest => if n < low then false else n ≤ high || inRanges n rest

end RoundWorkflow.Text
