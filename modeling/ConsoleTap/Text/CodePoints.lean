/-!
# Sets of characters as ranges

A character property is data: a list of closed ranges of code points, ascending
and apart.  Membership is one scan, which stops at the first range beyond the
code point sought.
-/

namespace ConsoleTap.Text

/-- Whether a code point lies in one of the ascending closed ranges. -/
def inRanges : List (Nat × Nat) → Nat → Bool
  | [], _ => false
  | (low, high) :: rest, n => decide (low ≤ n) && (decide (n ≤ high) || inRanges rest n)

end ConsoleTap.Text
