import Doxyfile.Text.Distance

/-!
# The distance counts edits

`OneEdit` is one edit of a text: a character inserted, deleted or replaced at any place. `Edited n`
is a chain of `n` of them. The result of this module is `distance_le_iff`: `distance` is at most `n`
exactly when at most `n` edits lead from one text to the other. So it is the length of a shortest
chain, although it is computed row by row and no chain occurs in it.

The proof goes through `editDistance`, the recursion over both texts from their heads. It has short
chains (`edited_editDistance`) and no chain is shorter (`editDistance_le_of_edited`). Rows run over
prefixes, which grow at their ends, so a row holds the values of this recursion on reversed prefixes
(`row`). An edit of reversed texts is an edit of the texts themselves.
-/

namespace Doxyfile.Text

/-! ## Edits -/

/-- **One edit**: a character is inserted, deleted or replaced. -/
inductive OneEdit : List Char → List Char → Prop where
  | insert (before after : List Char) (c : Char) : OneEdit (before ++ after) (before ++ c :: after)
  | delete (before after : List Char) (c : Char) : OneEdit (before ++ c :: after) (before ++ after)
  | replace (before after : List Char) (c d : Char) :
    OneEdit (before ++ c :: after) (before ++ d :: after)

/-- **A chain of `n` edits.** -/
inductive Edited : Nat → List Char → List Char → Prop where
  | refl (cs : List Char) : Edited 0 cs cs
  | tail {n : Nat} {source middle target : List Char} :
    Edited n source middle → OneEdit middle target → Edited (n + 1) source target

/-- At most `n` edits lead from `source` to `target`. -/
def WithinEdits (n : Nat) (source target : List Char) : Prop :=
  ∃ m ≤ n, Edited m source target

theorem OneEdit.symm {source target : List Char} (h : OneEdit source target) :
    OneEdit target source := by
  cases h with
  | insert before after c => exact .delete before after c
  | delete before after c => exact .insert before after c
  | replace before after c d => exact .replace before after d c

theorem OneEdit.cons {source target : List Char} (h : OneEdit source target) (c : Char) :
    OneEdit (c :: source) (c :: target) := by
  cases h with
  | insert before after d => exact .insert (c :: before) after d
  | delete before after d => exact .delete (c :: before) after d
  | replace before after d e => exact .replace (c :: before) after d e

theorem OneEdit.reverse {source target : List Char} (h : OneEdit source target) :
    OneEdit source.reverse target.reverse := by
  cases h with
  | insert before after c =>
    simpa using OneEdit.insert after.reverse before.reverse c
  | delete before after c =>
    simpa using OneEdit.delete after.reverse before.reverse c
  | replace before after c d =>
    simpa using OneEdit.replace after.reverse before.reverse c d

namespace Edited

theorem single {source target : List Char} (h : OneEdit source target) : Edited 1 source target :=
  (refl source).tail h

theorem trans {m n : Nat} {source middle target : List Char} (first : Edited m source middle)
    (second : Edited n middle target) : Edited (m + n) source target := by
  induction second with
  | refl cs => exact first
  | tail _ step ih => exact (ih first).tail step

theorem head {n : Nat} {source middle target : List Char} (step : OneEdit source middle)
    (h : Edited n middle target) : Edited (n + 1) source target := by
  rw [Nat.add_comm]
  exact (single step).trans h

theorem symm {n : Nat} {source target : List Char} (h : Edited n source target) :
    Edited n target source := by
  induction h with
  | refl cs => exact refl cs
  | tail _ step ih => exact head step.symm ih

theorem cons {n : Nat} {source target : List Char} (h : Edited n source target) (c : Char) :
    Edited n (c :: source) (c :: target) := by
  induction h with
  | refl cs => exact refl (c :: cs)
  | tail _ step ih => exact ih.tail (step.cons c)

theorem reverse {n : Nat} {source target : List Char} (h : Edited n source target) :
    Edited n source.reverse target.reverse := by
  induction h with
  | refl cs => exact refl cs.reverse
  | tail _ step ih => exact ih.tail step.reverse

/-- Reversed texts are as many edits apart as the texts. -/
theorem reverse_iff {n : Nat} {source target : List Char} :
    Edited n source.reverse target.reverse ↔ Edited n source target := by
  refine ⟨fun h => ?_, reverse⟩
  have hback := h.reverse
  rwa [List.reverse_reverse, List.reverse_reverse] at hback

/-- A text that holds nothing is all insertions away. -/
theorem nil_left (cs : List Char) : Edited cs.length [] cs := by
  induction cs with
  | nil => exact refl []
  | cons c cs ih => exact ih.tail (.insert [] cs c)

/-- **Two neighbours change places** in two edits. -/
theorem swap (before after : List Char) (c d : Char) :
    Edited 2 (before ++ c :: d :: after) (before ++ d :: c :: after) := by
  have first : OneEdit (before ++ c :: d :: after) (before ++ d :: d :: after) :=
    .replace before (d :: after) c d
  have second : OneEdit (before ++ d :: d :: after) (before ++ d :: c :: after) := by
    simpa using OneEdit.replace (before ++ [d]) after d c
  exact (single first).tail second

end Edited

/-! ## The recursion over both texts -/

/-- What it costs to read `d` for `c`. -/
def replaceCost (c d : Char) : Nat :=
  if c = d then 0 else 1

/-- **The distance by recursion**: the first characters are replaced one by the other, or the second
text's is inserted, or the first text's is deleted. -/
def editDistance : List Char → List Char → Nat
  | [], target => target.length
  | c :: cs, [] => (c :: cs).length
  | c :: cs, d :: ds =>
    min (min (editDistance cs ds + replaceCost c d) (editDistance (c :: cs) ds + 1))
      (editDistance cs (d :: ds) + 1)
termination_by source target => source.length + target.length

theorem editDistance_nil_left (target : List Char) : editDistance [] target = target.length := by
  rw [editDistance]

theorem editDistance_nil_right (source : List Char) : editDistance source [] = source.length := by
  cases source with
  | nil => rw [editDistance]
  | cons c cs => rw [editDistance]

theorem editDistance_cons_cons (c d : Char) (cs ds : List Char) :
    editDistance (c :: cs) (d :: ds) =
      min (min (editDistance cs ds + replaceCost c d) (editDistance (c :: cs) ds + 1))
        (editDistance cs (d :: ds) + 1) := by
  rw [editDistance]

theorem replaceCost_le (c d : Char) : replaceCost c d ≤ 1 := by
  unfold replaceCost
  split <;> decide

/-- **The recursion has a chain of its own length.** -/
theorem edited_editDistance (source target : List Char) :
    Edited (editDistance source target) source target := by
  fun_induction editDistance source target with
  | case1 target => exact Edited.nil_left target
  | case2 c cs => exact (Edited.nil_left (c :: cs)).symm
  | case3 c cs d ds replaced inserted deleted =>
    have hreplace : Edited (editDistance cs ds + replaceCost c d) (c :: cs) (d :: ds) := by
      unfold replaceCost
      split
      next heq =>
        subst heq
        exact replaced.cons c
      next => exact (replaced.cons c).tail (.replace [] ds c d)
    have hinsert : Edited (editDistance (c :: cs) ds + 1) (c :: cs) (d :: ds) :=
      inserted.tail (.insert [] ds d)
    have hdelete : Edited (editDistance cs (d :: ds) + 1) (c :: cs) (d :: ds) :=
      Edited.head (.delete [] cs c) deleted
    rcases Nat.le_total (min (editDistance cs ds + replaceCost c d) (editDistance (c :: cs) ds + 1))
      (editDistance cs (d :: ds) + 1) with hle | hle
    · rw [Nat.min_eq_left hle]
      rcases Nat.le_total (editDistance cs ds + replaceCost c d) (editDistance (c :: cs) ds + 1)
        with hle | hle
      · rw [Nat.min_eq_left hle]
        exact hreplace
      · rw [Nat.min_eq_right hle]
        exact hinsert
    · rw [Nat.min_eq_right hle]
      exact hdelete

/-! ## No chain is shorter -/

/-- From every text it is at most one edit further to `target` than to `middle`. -/
def OneFurther (middle target : List Char) : Prop :=
  ∀ source, editDistance source target ≤ editDistance source middle + 1

theorem editDistance_cons_le (c : Char) (cs ds : List Char) :
    editDistance (c :: cs) ds ≤ editDistance cs ds + 1 := by
  cases ds with
  | nil =>
    rw [editDistance_nil_right, editDistance_nil_right]
    exact Nat.le_refl _
  | cons d ds =>
    rw [editDistance_cons_cons]
    exact Nat.min_le_right _ _

theorem OneFurther.insert (after : List Char) (c : Char) : OneFurther after (c :: after) := by
  intro source
  cases source with
  | nil =>
    rw [editDistance_nil_left, editDistance_nil_left]
    exact Nat.le_refl _
  | cons x xs =>
    rw [editDistance_cons_cons]
    omega

theorem OneFurther.delete (after : List Char) (c : Char) : OneFurther (c :: after) after := by
  intro source
  induction source with
  | nil =>
    rw [editDistance_nil_left, editDistance_nil_left, List.length_cons]
    omega
  | cons x xs ih =>
    have hshort := editDistance_cons_le x xs after
    rw [editDistance_cons_cons]
    omega

theorem OneFurther.replace (after : List Char) (c d : Char) :
    OneFurther (c :: after) (d :: after) := by
  intro source
  induction source with
  | nil =>
    rw [editDistance_nil_left, editDistance_nil_left, List.length_cons, List.length_cons]
    omega
  | cons x xs ih =>
    have hcost := replaceCost_le x d
    rw [editDistance_cons_cons, editDistance_cons_cons]
    omega

theorem OneFurther.cons {middle target : List Char} (h : OneFurther middle target) (c : Char) :
    OneFurther (c :: middle) (c :: target) := by
  intro source
  induction source with
  | nil =>
    have hnil := h []
    rw [editDistance_nil_left, editDistance_nil_left] at hnil
    rw [editDistance_nil_left, editDistance_nil_left, List.length_cons, List.length_cons]
    omega
  | cons x xs ih =>
    have hboth := h xs
    have hsource := h (x :: xs)
    rw [editDistance_cons_cons, editDistance_cons_cons]
    omega

theorem OneFurther.append {middle target : List Char} (h : OneFurther middle target)
    (before : List Char) : OneFurther (before ++ middle) (before ++ target) := by
  induction before with
  | nil => exact h
  | cons c cs ih => exact ih.cons c

/-- One edit changes the distance by at most one. -/
theorem OneEdit.oneFurther {middle target : List Char} (h : OneEdit middle target) :
    OneFurther middle target := by
  cases h with
  | insert before after c => exact (OneFurther.insert after c).append before
  | delete before after c => exact (OneFurther.delete after c).append before
  | replace before after c d => exact (OneFurther.replace after c d).append before

theorem editDistance_self (cs : List Char) : editDistance cs cs = 0 := by
  induction cs with
  | nil => rw [editDistance_nil_left, List.length_nil]
  | cons c cs ih =>
    rw [editDistance_cons_cons, ih, replaceCost, if_pos rfl]
    omega

/-- **No chain is shorter than the recursion says.** -/
theorem editDistance_le_of_edited {n : Nat} {source target : List Char}
    (h : Edited n source target) : editDistance source target ≤ n := by
  induction h with
  | refl cs => exact Nat.le_of_eq (editDistance_self cs)
  | tail _ step ih => exact Nat.le_trans (step.oneFurther _) (Nat.succ_le_succ ih)

/-! ## Rows -/

/-- **The row of a prefix**, from one of its entries on: `source` is the prefix reversed, `target`
what of the target the first entry is for, reversed, and `rest` the remaining target. -/
def row (source target : List Char) : List Char → List Nat
  | [] => [editDistance source target]
  | d :: rest => editDistance source target :: row source (d :: target) rest

/-- The entries of a row behind its first. -/
def rowTail (source target : List Char) : List Char → List Nat
  | [] => []
  | d :: rest => row source (d :: target) rest

theorem row_eq_cons (source target rest : List Char) :
    row source target rest = editDistance source target :: rowTail source target rest := by
  cases rest <;> rfl

/-- The row of the empty prefix. -/
theorem firstRow_eq_row (target : List Char) : firstRow target = row [] [] target := by
  have hfrom : ∀ read rest : List Char,
      row [] read rest = List.range' read.length (rest.length + 1) := by
    intro read rest
    induction rest generalizing read with
    | nil => rw [row, editDistance_nil_left]; rfl
    | cons d rest ih =>
      rw [row, ih, editDistance_nil_left, List.length_cons, List.length_cons]
      exact (List.range'_succ ..).symm
  rw [hfrom, firstRow, List.range_eq_range']
  rfl

/-- **Each further entry is the recursion's**, when the entries around it are. -/
theorem extendRow_eq_rowTail (c : Char) (source target rest : List Char) :
    extendRow c (editDistance (c :: source) target) (editDistance source target) rest
      (rowTail source target rest) = rowTail (c :: source) target rest := by
  induction rest generalizing target with
  | nil => rfl
  | cons d rest ih =>
    show extendRow c _ _ (d :: rest) (row source (d :: target) rest) =
      row (c :: source) (d :: target) rest
    rw [row_eq_cons, row_eq_cons (c :: source), extendRow]
    have hentry : min (min (editDistance source target + if c = d then 0 else 1)
        (editDistance (c :: source) target + 1)) (editDistance source (d :: target) + 1) =
          editDistance (c :: source) (d :: target) :=
      (editDistance_cons_cons c d source target).symm
    rw [hentry, ih]

theorem nextRow_eq_row (c : Char) (source target : List Char) :
    nextRow target (row source [] target) c = row (c :: source) [] target := by
  have hfirst : editDistance source [] + 1 = editDistance (c :: source) [] := by
    rw [editDistance_nil_right, editDistance_nil_right, List.length_cons]
  rw [row_eq_cons, row_eq_cons, nextRow, hfirst, extendRow_eq_rowTail]

/-- **The rows of all prefixes**, by induction on the characters still to be read. -/
theorem foldl_nextRow (read cs target : List Char) :
    cs.foldl (nextRow target) (row read [] target) = row (cs.reverse ++ read) [] target := by
  induction cs generalizing read with
  | nil => rfl
  | cons c cs ih =>
    rw [List.foldl_cons, nextRow_eq_row, ih, List.reverse_cons, List.append_assoc]
    rfl

theorem getLastD_row (source target rest : List Char) :
    (row source target rest).getLastD 0 = editDistance source (rest.reverse ++ target) := by
  induction rest generalizing target with
  | nil => rfl
  | cons d rest ih =>
    have htail := ih (d :: target)
    rw [row_eq_cons] at htail
    rw [row, row_eq_cons, List.reverse_cons, List.append_assoc]
    exact htail

theorem distance_eq_editDistance (source target : List Char) :
    distance source target = editDistance source.reverse target.reverse := by
  unfold distance
  rw [firstRow_eq_row, foldl_nextRow, getLastD_row, List.append_nil, List.append_nil]

/-! ## The distance -/

/-- **The distance is at most `n` exactly when at most `n` edits lead from text to text.** -/
theorem distance_le_iff {n : Nat} {source target : List Char} :
    distance source target ≤ n ↔ WithinEdits n source target := by
  rw [distance_eq_editDistance]
  constructor
  · intro h
    exact ⟨_, h, Edited.reverse_iff.mp (edited_editDistance source.reverse target.reverse)⟩
  · rintro ⟨m, hm, h⟩
    exact Nat.le_trans (editDistance_le_of_edited (Edited.reverse_iff.mpr h)) hm

instance (n : Nat) (source target : List Char) : Decidable (WithinEdits n source target) :=
  decidable_of_iff _ distance_le_iff

theorem WithinEdits.symm {n : Nat} {source target : List Char} (h : WithinEdits n source target) :
    WithinEdits n target source := by
  obtain ⟨m, hm, hedited⟩ := h
  exact ⟨m, hm, hedited.symm⟩

theorem withinEdits_comm {n : Nat} {source target : List Char} :
    WithinEdits n source target ↔ WithinEdits n target source :=
  ⟨WithinEdits.symm, WithinEdits.symm⟩

end Doxyfile.Text
