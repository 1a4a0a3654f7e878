/-! # Character classes as ranges of code points -/
namespace SensorRelay.Text

/-- Ranges of code points, both ends included. -/
abbrev Ranges := List (Nat × Nat)

/-- Whether a code point is in one of the ranges. -/
def Ranges.has (ranges : Ranges) (n : Nat) : Bool := ranges.any fun (lo, hi) => lo ≤ n && n ≤ hi

end SensorRelay.Text
