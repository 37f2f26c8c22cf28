/-!
# Sets of characters given by ranges

A property of characters that only a table can give is written as its ranges: pairs of the first
and the last code point, in ascending order and apart from one another.
-/

namespace Doxyfile.Text

/-- Ranges of code points, each by its two ends, in ascending order. -/
abbrev Ranges := List (Nat × Nat)

/-- Whether a code point lies in one of the ranges; those past it are not looked at. -/
def Ranges.holds (code : Nat) : Ranges → Bool
  | [] => false
  | (first, last) :: ranges =>
    if code < first then false else if code ≤ last then true else holds code ranges

/-- Whether a character lies in one of the ranges. -/
def Ranges.contains (ranges : Ranges) (c : Char) : Bool :=
  Ranges.holds c.toNat ranges

end Doxyfile.Text
