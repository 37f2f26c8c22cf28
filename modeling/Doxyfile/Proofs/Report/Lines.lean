import Doxyfile.Report.Line
import Doxyfile.Text.Span
import Mathlib.Data.List.Nodup

/-!
# Lines told by where they start

A place in a source is told to a reader by the number of its line and by its column. Both follow
from the offsets at which lines start (`Line.starts`), and those are told by single characters: a
line starts at the beginning and behind each character that ends one, but never behind the last
character. `Line.numberAt` counts the starts up to an offset and `Line.columnAt` counts on from the
last of them; neither cuts the source.

`Line.map_start_all` says that the lines which a source is cut into start there. So the line found
for an offset has that number and that column (`Line.at?_number`, `Line.at?_column`), and it reaches
over the offset (`Line.exists_at?`).

This is about sources of ASCII characters. In those a place is the same counted in bytes or in
characters (`Text.charsBefore_ascii`).
-/

namespace Doxyfile

/-! ## Texts of ASCII characters -/

namespace Text

/-- **All characters are ASCII.** -/
def Ascii (cs : List Char) : Prop :=
  ∀ c ∈ cs, c.toNat < 128

instance (cs : List Char) : Decidable (Ascii cs) :=
  List.decidableBAll (fun c : Char => c.toNat < 128) cs

/-- **The characters of a text that begin before a byte.** -/
def charsBefore : List Char → Nat → Nat
  | [], _ => 0
  | c :: cs, place => if place = 0 then 0 else 1 + charsBefore cs (place - c.utf8Size)

theorem utf8Size_ascii {c : Char} (h : c.toNat < 128) : c.utf8Size = 1 :=
  Char.utf8Size_eq_one_iff.mpr (UInt32.le_iff_toNat_le.mpr (Nat.le_of_lt_succ h))

theorem byteLength_ascii {cs : List Char} (h : Ascii cs) : byteLength cs = cs.length := by
  induction cs with
  | nil => rfl
  | cons c cs ih =>
    rw [byteLength_cons, utf8Size_ascii (h c (.head _)), ih fun d hd => h d (.tail _ hd),
      List.length_cons, Nat.add_comm]

/-- **Bytes of an ASCII text are counted like its characters.** -/
theorem charsBefore_ascii {cs : List Char} (h : Ascii cs) {place : Nat}
    (hplace : place ≤ cs.length) : charsBefore cs place = place := by
  induction cs generalizing place with
  | nil => exact (Nat.le_zero.mp hplace).symm
  | cons c cs ih =>
    rw [List.length_cons] at hplace
    rw [charsBefore, utf8Size_ascii (h c (.head _)),
      ih (fun d hd => h d (.tail _ hd)) (by omega)]
    split <;> omega

end Text

namespace Line

/-! ## Where lines start -/

/-- Whether the character at an offset is the last of its line: it is a line feed, a vertical tab or
a form feed, or a carriage return without a line feed behind it. -/
def endsAt (source : List Char) (offset : Nat) : Bool :=
  match source[offset]? with
  | some '\r' => source[offset + 1]? != some '\n'
  | some c => c = '\n' || c = '\x0b' || c = '\x0c'
  | none => false

/-- Whether a line starts at an offset, if there is a character. -/
def startsAt (source : List Char) : Nat → Bool
  | 0 => true
  | offset + 1 => endsAt source offset

/-- **The offsets at which the lines of a source start.** -/
def starts (source : List Char) : List Nat :=
  (List.range source.length).filter (startsAt source)

/-- The starts of the lines that start at an offset or before it. -/
def startsUpTo (source : List Char) (offset : Nat) : List Nat :=
  (starts source).filter (· ≤ offset)

/-- **The number of the line at an offset**, the first line being 1. -/
def numberAt (source : List Char) (offset : Nat) : Nat :=
  (startsUpTo source offset).length

/-- **The column of an offset in its line**, the first column being 1. -/
def columnAt (source : List Char) (offset : Nat) : Nat :=
  offset - (startsUpTo source offset).getLastD 0 + 1

/-- The starts behind the first character. -/
theorem starts_cons (c : Char) (cs : List Char) :
    starts (c :: cs) =
      0 :: ((List.range cs.length).filter fun offset => endsAt (c :: cs) offset).map (· + 1) := by
  unfold starts
  rw [List.length_cons, List.range_succ_eq_map, List.filter_cons_of_pos rfl, List.filter_map]
  rfl

theorem starts_cons_of_ends {c : Char} {cs : List Char} (h : endsAt (c :: cs) 0 = true) :
    starts (c :: cs) = 0 :: (starts cs).map (· + 1) := by
  rw [starts_cons]
  congr 2
  refine List.filter_congr fun offset _ => ?_
  cases offset with
  | zero => exact h
  | succ offset => rfl

theorem starts_cons_of_not_ends {c : Char} {cs : List Char} (h : endsAt (c :: cs) 0 = false) :
    starts (c :: cs) = 0 :: (starts cs).tail.map (· + 1) := by
  rw [starts_cons]
  congr 2
  cases cs with
  | nil => rfl
  | cons d cs =>
    rw [starts_cons d cs, List.tail_cons, List.length_cons, List.range_succ_eq_map,
      List.filter_cons_of_neg (by rw [h]; exact Bool.false_ne_true), List.filter_map]
    rfl

/-! ## The lines start there -/

theorem isTerminator_ascii {c : Char} (h : c.toNat < 128) :
    isTerminator c = true ↔ c = '\n' ∨ c = '\x0b' ∨ c = '\x0c' ∨ c = '\r' := by
  have hchar : ∀ d : Char, c = d ↔ c.toNat = d.toNat := fun d =>
    ⟨congrArg Char.toNat, fun heq => Char.ext (UInt32.toNat_inj.mp heq)⟩
  unfold isTerminator
  simp only [hchar, Bool.or_eq_true, Bool.and_eq_true, decide_eq_true_eq, beq_iff_eq]
  show _ ↔ c.toNat = 10 ∨ c.toNat = 11 ∨ c.toNat = 12 ∨ c.toNat = 13
  omega

/-- The first character of a source ends its line when it ends lines, except in front of the line
feed of a pair. -/
theorem endsAt_zero {c : Char} {cs : List Char} (h : c.toNat < 128)
    (hpair : ∀ rest, c = '\r' → cs = '\n' :: rest → False) :
    endsAt (c :: cs) 0 = isTerminator c := by
  rw [Bool.eq_iff_iff, isTerminator_ascii h]
  by_cases hreturn : c = '\r'
  · subst hreturn
    refine iff_of_true ?_ (.inr (.inr (.inr rfl)))
    cases cs with
    | nil => rfl
    | cons d cs =>
      show (some d != some '\n') = true
      rw [bne_iff_ne]
      intro heq
      exact hpair cs rfl (by rw [Option.some.inj heq])
  · have hplain : endsAt (c :: cs) 0 = (decide (c = '\n') || c = '\x0b' || c = '\x0c') := by
      simp only [endsAt, List.getElem?_cons_zero]
    rw [hplain]
    simp only [Bool.or_eq_true, decide_eq_true_eq, hreturn, or_false, or_assoc]

/-- **The lines that a source is cut into start where lines start.** -/
theorem map_start_place {source : List Char} (h : Text.Ascii source) (index start : Nat) :
    (place index start (cut source)).map (·.start) = (starts source).map (start + ·) := by
  -- the starts behind the first character, counted on from there
  have hshift : ∀ (offsets : List Nat) (first : Nat),
      (offsets.map (· + 1)).map (first + ·) = offsets.map (first + 1 + ·) := by
    intro offsets first
    rw [List.map_map]
    exact List.map_congr_left fun offset _ => by show first + (offset + 1) = _; omega
  induction source using cut.induct generalizing index start with
  | case1 => rfl
  | case2 cs ih =>
    have hcs : Text.Ascii cs := fun c hc => h c (.tail _ (.tail _ hc))
    rw [starts_cons_of_not_ends rfl, starts_cons_of_ends rfl, List.tail_cons, List.map_cons, hshift,
      hshift, ← ih hcs (index + 1)]
    rfl
  | case3 c cs hpair hterminator ih =>
    have hcs : Text.Ascii cs := fun d hd => h d (.tail _ hd)
    have hends := (endsAt_zero (h c (.head _)) hpair).trans hterminator
    rw [starts_cons_of_ends hends, List.map_cons, hshift, ← ih hcs (index + 1), cut,
      if_pos hterminator]
    · rfl
    · exact hpair
  | case4 c cs hpair hterminator hcut ih =>
    have hcs : cs = [] := by rw [← cut_flatten cs, hcut]; rfl
    have hends := (endsAt_zero (h c (.head _)) hpair).trans (Bool.eq_false_iff.mpr hterminator)
    rw [starts_cons_of_not_ends hends, cut, if_neg hterminator, hcut, hcs]
    · rfl
    · exact hpair
  | case5 c cs hpair hterminator line lines hcut ih =>
    have hcs : Text.Ascii cs := fun d hd => h d (.tail _ hd)
    have hends := (endsAt_zero (h c (.head _)) hpair).trans (Bool.eq_false_iff.mpr hterminator)
    have hbehind := congrArg List.tail (ih hcs index (start + 1))
    rw [hcut, place, List.map_cons, List.tail_cons, ← List.map_tail] at hbehind
    rw [starts_cons_of_not_ends hends, List.map_cons, hshift, ← hbehind, cut, if_neg hterminator,
      hcut]
    · simp only [place, List.map_cons, List.length_cons]
      rw [Nat.add_assoc start 1, Nat.add_comm 1]
      rfl
    · exact hpair

theorem map_start_all {source : List Char} (h : Text.Ascii source) :
    (all source).map (·.start) = starts source := by
  rw [all, map_start_place h]
  simp only [Nat.zero_add, List.map_id']

/-- Lines are numbered one after the other. -/
theorem map_index_place (index start : Nat) (contents : List (List Char)) :
    (place index start contents).map (·.index) = List.range' index contents.length := by
  induction contents generalizing index start with
  | nil => rfl
  | cons content contents ih =>
    rw [place, List.map_cons, ih, List.length_cons, List.range'_succ]

/-- Lines of a source with the same index are the same. -/
theorem eq_of_index_eq {source : List Char} {first second : Line} (hfirst : first ∈ all source)
    (hsecond : second ∈ all source) (h : first.index = second.index) : first = second := by
  have hnodup : ((all source).map (·.index)).Nodup := by
    rw [all, map_index_place]
    exact List.nodup_range' 1
  exact List.inj_on_of_nodup_map hnodup hfirst hsecond h

/-! ## The line at an offset -/

/-- Of numbers in their order, those up to a bound stand in front. -/
theorem takeWhile_eq_filter {numbers : List Nat} (h : numbers.Pairwise (· < ·)) (bound : Nat) :
    numbers.takeWhile (· ≤ bound) = numbers.filter (· ≤ bound) := by
  induction h with
  | nil => rfl
  | @cons first others hfirst _ ih =>
    by_cases hle : first ≤ bound
    · rw [List.takeWhile_cons_of_pos (by simpa using hle),
        List.filter_cons_of_pos (by simpa using hle), ih]
    · have hnone : ∀ other ∈ others, ¬ (decide (other ≤ bound) = true) := by
        intro other hother
        have := hfirst other hother
        rw [decide_eq_true_eq]
        omega
      rw [List.takeWhile_cons_of_neg (by simpa using hle),
        List.filter_cons_of_neg (by simpa using hle), List.filter_eq_nil_iff.mpr hnone]

theorem pairwise_starts (source : List Char) : (starts source).Pairwise (· < ·) :=
  List.pairwise_lt_range.filter _

theorem map_start_takeWhile {source : List Char} (h : Text.Ascii source) (offset : Nat) :
    ((all source).takeWhile (·.start ≤ offset)).map (·.start) = startsUpTo source offset := by
  rw [startsUpTo, ← takeWhile_eq_filter (pairwise_starts source), ← map_start_all h,
    List.takeWhile_map]
  rfl

theorem getLast?_of_at? {source : List Char} {offset : Nat} {line : Line}
    (h : at? source offset = some line) :
    ((all source).takeWhile (·.start ≤ offset)).getLast? = some line := by
  unfold at? at h
  split at h
  · exact h
  · cases h

theorem mem_all_of_at? {source : List Char} {offset : Nat} {line : Line}
    (h : at? source offset = some line) : line ∈ all source :=
  (List.takeWhile_sublist _).subset (List.mem_of_getLast? (getLast?_of_at? h))

/-- **The line found for an offset has the number of that offset.** -/
theorem at?_number {source : List Char} (h : Text.Ascii source) {offset : Nat} {line : Line}
    (hline : at? source offset = some line) : line.number = numberAt source offset := by
  obtain ⟨before, hbefore⟩ := List.getLast?_eq_some_iff.mp (getLast?_of_at? hline)
  rw [numberAt, ← map_start_takeWhile h, hbefore, List.length_map, List.length_append]
  obtain ⟨after, hafter⟩ : before ++ [line] <+: all source := hbefore ▸ List.takeWhile_prefix _
  -- the indices of all lines count up, so that of the line says how many are before it
  have hindices := map_index_place 0 0 (cut source)
  rw [← all, ← hafter, List.append_assoc, List.map_append] at hindices
  obtain ⟨count, -, hfront, hback⟩ := List.range'_eq_append_iff.mp hindices.symm
  have hcount := congrArg List.length hfront
  rw [List.length_map, List.length_range'] at hcount
  have hindex : 0 + count * 1 = line.index := (List.range'_eq_cons_iff.mp hback.symm).1
  rw [number, List.length_singleton]
  omega

/-- **The line found for an offset starts where columns are counted from.** -/
theorem at?_column {source : List Char} (h : Text.Ascii source) {offset : Nat} {line : Line}
    (hline : at? source offset = some line) :
    offset - line.start + 1 = columnAt source offset := by
  rw [columnAt, ← map_start_takeWhile h, List.getLastD_eq_getLast?, List.getLast?_map,
    getLast?_of_at? hline]
  rfl

/-- The end of a source that ends with a line break is on the line of that break. -/
example : numberAt "a\r\nb\n".toList 5 = 2 ∧ columnAt "a\r\nb\n".toList 5 = 3 := by decide

/-- The last line that starts at an offset or before it reaches over the offset, or ends there if
the source does. -/
theorem exists_getLast?_place {contents : List (List Char)} (index : Nat) {start offset : Nat}
    (hcontents : contents ≠ []) (hstart : start ≤ offset)
    (h : offset ≤ start + contents.flatten.length) :
    ∃ line, ((place index start contents).takeWhile (·.start ≤ offset)).getLast? = some line ∧
      offset ≤ line.stop ∧ (offset < start + contents.flatten.length → offset < line.stop) := by
  induction contents generalizing index start with
  | nil => exact absurd rfl hcontents
  | cons content others ih =>
    rw [List.flatten_cons, List.length_append] at h ⊢
    rw [place, List.takeWhile_cons_of_pos (by simpa using hstart)]
    cases others with
    | nil =>
      rw [List.flatten_nil, List.length_nil] at h ⊢
      refine ⟨⟨index, start, content⟩, rfl, ?_⟩
      show offset ≤ start + content.length ∧ (_ → offset < start + content.length)
      omega
    | cons other others =>
      by_cases hle : start + content.length ≤ offset
      · obtain ⟨line, hlast, hstop, hinside⟩ :=
          ih (index + 1) (List.cons_ne_nil _ _) hle (by omega)
        refine ⟨line, ?_, hstop, fun hlt => hinside (by omega)⟩
        rw [List.getLast?_cons, hlast]
        rfl
      · -- no other line starts in time
        refine ⟨⟨index, start, content⟩, ?_, Nat.le_of_not_le hle, fun _ => Nat.not_le.mp hle⟩
        rw [place, List.takeWhile_cons_of_neg (by simpa using hle)]
        rfl

/-- **Every offset of a source that is not empty is on some line**, also the one at the end. -/
theorem exists_at? {source : List Char} {offset : Nat} (hsource : source ≠ [])
    (h : offset ≤ source.length) :
    ∃ line, at? source offset = some line ∧ offset ≤ line.stop ∧
      (offset < source.length → offset < line.stop) := by
  have hlines : cut source ≠ [] := by
    intro hnil
    rw [← cut_flatten source, hnil] at hsource
    exact hsource rfl
  have hline := exists_getLast?_place 0 hlines (Nat.zero_le offset)
    (by rw [cut_flatten, Nat.zero_add]; exact h)
  rw [cut_flatten, Nat.zero_add] at hline
  rw [at?, if_pos h]
  exact hline

end Line

end Doxyfile
