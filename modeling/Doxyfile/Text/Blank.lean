/-!
# Blank characters, and trimming

A character is blank when it has the Unicode property `White_Space`: twenty-five characters, the
ASCII ones among them. Trimming takes blanks off the ends of a text and leaves those inside.
-/

namespace Doxyfile.Text

/-- The characters with the property `White_Space`. -/
def isBlank (c : Char) : Bool :=
  let n := c.toNat
  (0x09 ≤ n && n ≤ 0x0D) || n == 0x20 || n == 0x85 || n == 0xA0 || n == 0x1680 ||
    (0x2000 ≤ n && n ≤ 0x200A) || n == 0x2028 || n == 0x2029 || n == 0x202F || n == 0x205F ||
    n == 0x3000

/-- The text without the blanks it starts with. -/
def trimStart (cs : List Char) : List Char :=
  cs.dropWhile isBlank

/-- The text without the blanks it ends with. -/
def trimEnd (cs : List Char) : List Char :=
  (cs.reverse.dropWhile isBlank).reverse

/-- The text without the blanks at its two ends. -/
def trim (cs : List Char) : List Char :=
  trimEnd (trimStart cs)

/-- The blanks a text starts with. -/
def leadingBlanks (cs : List Char) : List Char :=
  cs.takeWhile isBlank

/-- Cutting the leading blanks off loses nothing. -/
theorem leadingBlanks_append_trimStart (cs : List Char) :
    leadingBlanks cs ++ trimStart cs = cs :=
  List.takeWhile_append_dropWhile

end Doxyfile.Text
