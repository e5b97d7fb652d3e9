/-!
# Sets of code points as ranges

A set of code points is written as the list of its ranges, each with its two ends, in ascending
order.  Membership walks down the list and stops at the first range that begins above the code
point, which the order of the list permits.
-/

namespace SheetStore.Text

/-- Ranges of code points, both ends included, in ascending order. -/
abbrev Ranges := List (Nat × Nat)

/-- Whether the code point lies in one of the ranges. -/
def Ranges.holds : Ranges → Nat → Bool
  | [], _ => false
  | (lo, hi) :: rest, n => if n < lo then false else n ≤ hi || Ranges.holds rest n

end SheetStore.Text
