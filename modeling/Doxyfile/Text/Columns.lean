import Doxyfile.Text.EastAsianWide
import Doxyfile.Text.ZeroWidth

/-!
# How many columns a character takes

On a terminal a character takes one column, or two when it is an East Asian wide one, or none when
it is drawn with its neighbour or not at all. Two Khmer characters stand for a sequence of others
and take as many columns as the sequence: `U+17A4` two and `U+17D8` three.
-/

namespace Doxyfile.Text

/-- The columns that a character takes. -/
def columns (c : Char) : Nat :=
  if c.toNat < 0xA0 then 1
  else if c.toNat = 0x17D8 then 3
  else if c.toNat = 0x17A4 then 2
  else if zeroWidth.contains c then 0
  else if eastAsianWide.contains c then 2
  else 1

end Doxyfile.Text
