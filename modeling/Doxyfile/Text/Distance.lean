/-!
# How many edits lie between two texts

An edit inserts, deletes or replaces one character. `distance` computes, row by row, the least
number of edits that turn one text into another: the row of a prefix of the first text holds its
distances to every prefix of the second, the empty one first, and the next row comes from it entry
by entry.
-/

namespace Doxyfile.Text

/-- The entries of the next row past one that is known. `left` is that entry and `diagonal` the one
it stands under; the lists hold the characters and the entries of the row above from there on. -/
def extendRow (c : Char) (left diagonal : Nat) : List Char → List Nat → List Nat
  | d :: ds, above :: row =>
    let replaced := diagonal + if c = d then 0 else 1
    let entry := min (min replaced (left + 1)) (above + 1)
    entry :: extendRow c entry above ds row
  | [], _ => []
  | _, [] => []

/-- The row of a prefix that is longer by the character `c`. -/
def nextRow (target : List Char) (row : List Nat) (c : Char) : List Nat :=
  match row with
  | [] => []
  | first :: others => (first + 1) :: extendRow c (first + 1) first target others

/-- The row of the empty prefix: a prefix of the target is all insertions away. -/
def firstRow (target : List Char) : List Nat :=
  List.range (target.length + 1)

/-- The least number of edits that turn `source` into `target`. -/
def distance (source target : List Char) : Nat :=
  (source.foldl (nextRow target) (firstRow target)).getLastD 0

end Doxyfile.Text
