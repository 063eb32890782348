/-!
# Ranges of code points

A property of characters is a table of closed ranges in ascending order;
membership is a walk that stops at the first range beyond the number.
-/

namespace ApiPages.Text

/-- Whether `n` lies in one of the closed ranges. -/
def inRanges (n : Nat) : List (Nat × Nat) → Bool
  | [] => false
  | (lo, hi) :: more => if n < lo then false else n ≤ hi || inRanges n more

end ApiPages.Text
