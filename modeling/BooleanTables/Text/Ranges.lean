/-!
# Classes of characters as code point ranges

A class of characters is a list of inclusive code point ranges in ascending order, so a search may
stop at the first range that begins after the code point.
-/

namespace BooleanTables.Text

abbrev Ranges := List (Nat × Nat)

/-- Whether a code point lies in one of the ranges, which are in ascending order. -/
def Ranges.covers : Ranges → Nat → Bool
  | [], _ => false
  | (low, high) :: rest, code =>
    if code < low then false else if code ≤ high then true else covers rest code

end BooleanTables.Text
