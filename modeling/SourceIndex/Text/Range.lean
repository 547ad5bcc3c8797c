/-!
# Ranges of code points

A character property is a list of closed ranges of code points in increasing order. A lookup stops
at the first range that starts beyond the code point.
-/

namespace SourceIndex.Text

/-- Closed ranges of code points, in increasing order and without overlap. -/
abbrev Ranges := List (Nat × Nat)

namespace Ranges

/-- Whether a code point lies in one of the ranges. -/
def contains : Ranges → Nat → Bool
  | [], _ => false
  | (low, high) :: rest, code =>
    if code < low then false else code ≤ high || contains rest code

end Ranges

end SourceIndex.Text
