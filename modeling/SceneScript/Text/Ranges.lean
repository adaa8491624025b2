/-!
# Text — classes of characters as ranges

A class of characters is written as the closed ranges of code points it
holds, in ascending order. Membership walks the ranges and stops at the
first one that lies beyond the code point, so a small code point is
decided by a short prefix of a long table.
-/

namespace SceneScript
namespace Text

/-- Closed ranges of code points, ascending and apart from each other. -/
abbrev Ranges := List (Nat × Nat)

/-- Whether a code point lies in one of the ranges. -/
def Ranges.has : Ranges → Nat → Bool
  | [], _ => false
  | (low, high) :: rest, n => if n < low then false else n ≤ high || Ranges.has rest n

end Text
end SceneScript
