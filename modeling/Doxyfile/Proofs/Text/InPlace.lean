import Mathlib.Order.Bounds.Defs
import Doxyfile.Proofs.Text.Edits

/-!
# One row, overwritten in place

`distance` makes a new row for every character of the first text. One row is enough: its entries are
overwritten from the left, and of the row above only the entry that was overwritten last is still
asked for, the diagonal. `InPlace.distance` computes in this way and reads the row by index. It has
no answer as soon as an index lies outside of the row.

It always has one, and the same as `distance` (`InPlace.distance_eq`). What carries the proof is the
row in the middle of a pass: entries of the new row up to the index, entries of the old one behind
it (`InPlace.Pass.run_eq`).

The module ends with what `distance` is, `distance_isLeast`: the length of a shortest chain of
edits, and the table of two dimensions of which the rows are the lines.
-/

namespace Doxyfile.Text

namespace InPlace

/-! ## The computation -/

/-- A row while it is overwritten. `diagonal` is what stood in the entry that was overwritten
last. -/
structure Pass where
  row : List Nat
  diagonal : Nat
deriving DecidableEq, Repr

/-- Overwrites the entry behind index `j`, for the characters `c` of the source and `d` of the
target. -/
def Pass.overwrite (c d : Char) (j : Nat) (pass : Pass) : Option Pass := do
  let above ← pass.row[j + 1]?
  let left ← pass.row[j]?
  let replaced := pass.diagonal + if c = d then 0 else 1
  some ⟨pass.row.set (j + 1) (min (min replaced (left + 1)) (above + 1)), above⟩

/-- Overwrites the entries behind index `j`, one for each character of the target. -/
def Pass.run (c : Char) : Nat → List Char → Pass → Option Pass
  | _, [], pass => some pass
  | j, d :: ds, pass => do run c (j + 1) ds (← pass.overwrite c d j)

/-- Overwrites the row for the character `c`, which has `i` characters of the source before it. -/
def step (target : List Char) (i : Nat) (c : Char) (row : List Nat) : Option (List Nat) := do
  let first ← row[0]?
  let pass ← Pass.run c 0 target ⟨row.set 0 (i + 1), first⟩
  some pass.row

/-- Overwrites the row for one character of the source after the other. -/
def steps (target : List Char) : Nat → List Char → List Nat → Option (List Nat)
  | _, [], row => some row
  | i, c :: cs, row => do steps target (i + 1) cs (← step target i c row)

/-- The last entry of the row when all characters of the source are read; none when an index lay
outside of the row. -/
def distance (source target : List Char) : Option Nat := do
  let row ← steps target 0 source (List.range (target.length + 1))
  row[target.length]?

/-! ## A pass over the row -/

/-- **One entry**: what is in front of the index is of the new row, what is behind it of the old
one, and the entry changes sides. -/
theorem Pass.overwrite_eq (c d : Char) (done olds : List Nat) (left above diagonal : Nat) :
    overwrite c d done.length ⟨done ++ left :: above :: olds, diagonal⟩ =
      some ⟨done ++ left ::
        min (min (diagonal + if c = d then 0 else 1) (left + 1)) (above + 1) :: olds, above⟩ := by
  have hleft : (done ++ left :: above :: olds)[done.length]? = some left := by
    rw [List.getElem?_append_right (Nat.le_refl _), Nat.sub_self]
    rfl
  have habove : (done ++ left :: above :: olds)[done.length + 1]? = some above := by
    rw [List.getElem?_append_right (Nat.le_add_right _ 1), Nat.add_sub_cancel_left]
    rfl
  have hset (entry : Nat) : (done ++ left :: above :: olds).set (done.length + 1) entry =
      done ++ left :: entry :: olds := by
    rw [List.set_append_right _ _ (Nat.le_add_right _ 1), Nat.add_sub_cancel_left]
    rfl
  simp only [overwrite, hleft, habove, hset, Option.bind_eq_bind, Option.bind_some]

/-- **A pass writes the next row over the old one**, when the old one has an entry left for every
character. -/
theorem Pass.run_eq (c : Char) {ds : List Char} {olds : List Nat} (h : olds.length = ds.length)
    (done : List Nat) (left diagonal : Nat) :
    ∃ last, run c done.length ds ⟨done ++ left :: olds, diagonal⟩ =
      some ⟨done ++ left :: extendRow c left diagonal ds olds, last⟩ := by
  induction ds generalizing done left diagonal olds with
  | nil =>
    obtain rfl := List.eq_nil_of_length_eq_zero h
    exact ⟨diagonal, rfl⟩
  | cons d ds ih =>
    cases olds with
    | nil => cases h
    | cons above olds =>
      -- the entry just written is in front of the index of the next one
      obtain ⟨last, hrun⟩ := ih (Nat.succ.inj h) (done ++ [left])
        (min (min (diagonal + if c = d then 0 else 1) (left + 1)) (above + 1)) above
      refine ⟨last, ?_⟩
      rw [List.length_append, List.length_singleton, List.append_assoc, List.append_assoc] at hrun
      rw [run, overwrite_eq]
      exact hrun

/-! ## Rows -/

theorem length_extendRow (c : Char) {ds : List Char} {olds : List Nat}
    (h : olds.length = ds.length) (left diagonal : Nat) :
    (extendRow c left diagonal ds olds).length = ds.length := by
  induction ds generalizing olds left diagonal with
  | nil => rfl
  | cons d ds ih =>
    cases olds with
    | nil => cases h
    | cons above olds =>
      rw [extendRow, List.length_cons, List.length_cons, ih (Nat.succ.inj h)]

theorem step_eq {target : List Char} {olds : List Nat} (h : olds.length = target.length) (i : Nat)
    (c : Char) : step target i c (i :: olds) = some (nextRow target (i :: olds) c) := by
  obtain ⟨last, hrun⟩ := Pass.run_eq c h [] (i + 1) i
  rw [List.length_nil, List.nil_append, List.nil_append] at hrun
  show (do let pass ← Pass.run c 0 target ⟨(i + 1) :: olds, i⟩; some pass.row) = _
  rw [hrun]
  rfl

/-- **The rows are those of `distance`**, by induction on the characters still to be read; each
begins with the number of those that were read. -/
theorem steps_eq {target : List Char} {olds : List Nat} (h : olds.length = target.length) (i : Nat)
    (cs : List Char) :
    steps target i cs (i :: olds) = some (cs.foldl (nextRow target) (i :: olds)) ∧
      (cs.foldl (nextRow target) (i :: olds)).length = target.length + 1 := by
  induction cs generalizing i olds with
  | nil => exact ⟨rfl, congrArg (· + 1) h⟩
  | cons c cs ih =>
    rw [steps, step_eq h]
    exact ih (length_extendRow c h (i + 1) i) (i + 1)

theorem steps_firstRow (target cs : List Char) :
    steps target 0 cs (firstRow target) = some (cs.foldl (nextRow target) (firstRow target)) ∧
      (cs.foldl (nextRow target) (firstRow target)).length = target.length + 1 := by
  have hfirst : firstRow target = 0 :: (List.range target.length).map Nat.succ :=
    List.range_succ_eq_map
  rw [hfirst]
  exact steps_eq (by rw [List.length_map, List.length_range]) 0 cs

/-- **One row is enough**, and no index lies outside of it. -/
theorem distance_eq (source target : List Char) :
    distance source target = some (Text.distance source target) := by
  obtain ⟨hsteps, hlength⟩ := steps_firstRow target source
  have hne : source.foldl (nextRow target) (firstRow target) ≠ [] := by
    intro hnil
    rw [hnil] at hlength
    cases hlength
  show (do let row ← steps target 0 source (firstRow target); row[target.length]?) = _
  rw [hsteps, Option.bind_eq_bind, Option.bind_some, Text.distance,
    List.getLastD_eq_getLast?, List.getLast?_eq_some_getLast hne, Option.getD_some,
    List.getLast_eq_getElem, ← List.getElem?_eq_getElem, hlength, Nat.add_sub_cancel]

end InPlace

/-! ## The table of two dimensions -/

/-- The row of a prefix holds the distances to all prefixes of what is still to be read. -/
theorem row_eq_map (source target rest : List Char) :
    row source target rest = (List.range (rest.length + 1)).map fun j =>
      editDistance source ((rest.take j).reverse ++ target) := by
  induction rest generalizing target with
  | nil => rfl
  | cons d rest ih =>
    rw [row, ih, List.length_cons, List.range_succ_eq_map (n := rest.length + 1), List.map_cons,
      List.map_map]
    simp only [Function.comp_def, List.take_succ_cons, List.reverse_cons, List.append_assoc,
      List.cons_append, List.nil_append, List.take_zero, List.reverse_nil]

/-- **The row when some characters are read** holds their distances to the prefixes of the
target. -/
theorem foldl_nextRow_firstRow (read target : List Char) :
    read.foldl (nextRow target) (firstRow target) =
      (List.range (target.length + 1)).map fun j => distance read (target.take j) := by
  rw [firstRow_eq_row, foldl_nextRow, row_eq_map]
  simp only [distance_eq_editDistance, List.append_nil]

theorem distance_nil_left (target : List Char) : distance [] target = target.length := by
  rw [distance_eq_editDistance, List.reverse_nil, editDistance_nil_left, List.length_reverse]

theorem distance_nil_right (source : List Char) : distance source [] = source.length := by
  rw [distance_eq_editDistance, List.reverse_nil, editDistance_nil_right, List.length_reverse]

/-- An entry of the table, from those beside it, above it and between the two. -/
theorem distance_concat (source target : List Char) (c d : Char) :
    distance (source ++ [c]) (target ++ [d]) =
      min (min (distance source target + if c = d then 0 else 1)
        (distance (source ++ [c]) target + 1)) (distance source (target ++ [d]) + 1) := by
  simp only [distance_eq_editDistance, List.reverse_append, List.reverse_singleton,
    List.singleton_append]
  exact editDistance_cons_cons c d source.reverse target.reverse

/-! ## What the distance is -/

theorem edited_distance (source target : List Char) :
    Edited (distance source target) source target := by
  rw [distance_eq_editDistance]
  exact Edited.reverse_iff.mp (edited_editDistance source.reverse target.reverse)

theorem distance_le_of_edited {n : Nat} {source target : List Char} (h : Edited n source target) :
    distance source target ≤ n :=
  distance_le_iff.mpr ⟨n, Nat.le_refl n, h⟩

theorem distance_comm (source target : List Char) :
    distance source target = distance target source :=
  Nat.le_antisymm (distance_le_of_edited (edited_distance target source).symm)
    (distance_le_of_edited (edited_distance source target).symm)

/-- Only equal texts are no edits apart. -/
theorem distance_eq_zero_iff {source target : List Char} :
    distance source target = 0 ↔ source = target := by
  constructor
  · intro h
    have hedited := edited_distance source target
    rw [h] at hedited
    cases hedited
    rfl
  · rintro rfl
    exact Nat.le_zero.mp (distance_le_of_edited (.refl source))

theorem editDistance_le_max (source target : List Char) :
    editDistance source target ≤ max source.length target.length := by
  fun_induction editDistance source target with
  | case1 target => exact Nat.le_max_right _ _
  | case2 c cs => exact Nat.le_max_left _ _
  | case3 c cs d ds replaced _ _ =>
    have hcost := replaceCost_le c d
    rw [List.length_cons, List.length_cons]
    omega

/-- **The distance is the length of a shortest chain of edits.** It is computed in one row that is
overwritten in place, and no index lies outside of that row. When some characters of the source are
read, the row holds their distances to all prefixes of the target, so it is a line of the table of
two dimensions, whose entries come from their neighbours. The distance is the same from both sides,
zero between equal texts only, and at most the length of the longer text. -/
theorem distance_isLeast (source target : List Char) :
    IsLeast {n | Edited n source target} (distance source target) ∧
      InPlace.distance source target = some (distance source target) ∧
      (∀ read : List Char, InPlace.steps target 0 read (firstRow target) =
        some ((List.range (target.length + 1)).map fun j => distance read (target.take j))) ∧
      (distance [] target = target.length ∧ distance source [] = source.length ∧
        ∀ c d : Char, distance (source ++ [c]) (target ++ [d]) =
          min (min (distance source target + if c = d then 0 else 1)
            (distance (source ++ [c]) target + 1)) (distance source (target ++ [d]) + 1)) ∧
      distance source target = distance target source ∧
      (distance source target = 0 ↔ source = target) ∧
      distance source target ≤ max source.length target.length := by
  refine ⟨⟨edited_distance source target, fun n h => distance_le_of_edited h⟩,
    InPlace.distance_eq source target, fun read => ?_, ⟨distance_nil_left target,
    distance_nil_right source, distance_concat source target⟩, distance_comm source target,
    distance_eq_zero_iff, ?_⟩
  · rw [(InPlace.steps_firstRow target read).1, foldl_nextRow_firstRow]
  · have hmax := editDistance_le_max source.reverse target.reverse
    rwa [← distance_eq_editDistance, List.length_reverse, List.length_reverse] at hmax

/-- Three edits, and no fewer. -/
example : distance "kitten".toList "sitting".toList = 3 ∧
    InPlace.distance "kitten".toList "sitting".toList = some 3 := by decide

end Doxyfile.Text
