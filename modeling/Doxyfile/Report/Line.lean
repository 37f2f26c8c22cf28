import Doxyfile.Text.Blank
import Doxyfile.Text.Columns

/-!
# Lines of a source

A source is cut into lines after each line terminator, which stays with the line it ends; `\r\n` is
one terminator. A terminator at the end starts no further line, and the empty source has no lines.
All offsets here count characters.

A line is drawn without the blanks at its end, a tab as spaces up to the next multiple of four.
-/

namespace Doxyfile

/-- A line of a source. -/
structure Line where
  /-- How many lines come before it. -/
  index : Nat
  /-- How many characters come before it. -/
  start : Nat
  /-- Its characters, the terminator included. -/
  content : List Char
deriving DecidableEq, Repr

namespace Line

/-- Whether the character alone ends a line. -/
def isTerminator (c : Char) : Bool :=
  let n := c.toNat
  (0x0A ≤ n && n ≤ 0x0D) || n == 0x85 || n == 0x2028 || n == 0x2029

/-- Cuts a source after each of its terminators. -/
def cut : List Char → List (List Char)
  | [] => []
  | '\r' :: '\n' :: cs => ['\r', '\n'] :: cut cs
  | c :: cs =>
    if isTerminator c then [c] :: cut cs
    else
      match cut cs with
      | [] => [[c]]
      | line :: lines => (c :: line) :: lines

/-- Numbers the lines and gives them their offsets, from `index` and `start` on. -/
def place (index start : Nat) : List (List Char) → List Line
  | [] => []
  | content :: contents =>
    ⟨index, start, content⟩ :: place (index + 1) (start + content.length) contents

/-- The lines of a source. -/
def all (source : List Char) : List Line :=
  place 0 0 (cut source)

/-- The last line that starts at an offset or before it, if the offset is in the source or at its
end. -/
def at? (source : List Char) (offset : Nat) : Option Line :=
  if offset ≤ source.length then ((all source).takeWhile (·.start ≤ offset)).getLast? else none

/-- The offset of the line's end, past its terminator. -/
def stop (line : Line) : Nat :=
  line.start + line.content.length

/-- The number of the line as a reader counts. -/
def number (line : Line) : Nat :=
  line.index + 1

/-- The characters of the line that are drawn. -/
def drawn (line : Line) : List Char :=
  Text.trimEnd line.content

/-- The columns that a character takes when it is the one at `column` in its line. -/
def columnsAt (column : Nat) (c : Char) : Nat :=
  if c = '\t' then (column / 4 + 1) * 4 - column
  else if Text.isBlank c then 1
  else Text.columns c

/-- The columns of the drawn characters, from the one at `column` on. -/
def columnsFrom (column : Nat) : List Char → List Nat
  | [] => []
  | c :: cs => columnsAt column c :: columnsFrom (column + 1) cs

/-- The columns taken by the first `count` characters; a place past the drawn ones takes one. -/
def columns (line : Line) (count : Nat) : List Nat :=
  (columnsFrom 0 line.drawn ++ List.replicate count 1).take count

/-! ## Nothing is lost -/

/-- The lines together are the source. -/
theorem cut_flatten (source : List Char) : (cut source).flatten = source := by
  fun_induction cut source <;> simp_all

end Line

end Doxyfile
