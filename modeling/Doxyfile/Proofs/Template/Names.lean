import Doxyfile.Proofs.Template.Tokens
import Doxyfile.Template.Parse

/-!
# Field names between blanks

The inside of an output tag is a field name with blanks around it. No character of it begins a
delimiter (`isPlain_of_isBlank_or`), no character of the name is a blank (`isBlank_of_isNameChar`),
and so trimming gives the name and nothing else (`trim_name`).
-/

namespace Doxyfile.Template

/-! ## Characters -/

/-- The characters of a name lie between `0` and `z`. -/
theorem toNat_of_isNameChar {c : Char} (h : isNameChar c = true) :
    48 ≤ c.toNat ∧ c.toNat ≤ 122 := by
  change (((decide (c.val ≥ 'A'.val ∧ c.val ≤ 'Z'.val) || (c.val ≥ 'a'.val && c.val ≤ 'z'.val)) ||
    (c.val ≥ '0'.val && c.val ≤ '9'.val)) || c == '_') = true at h
  simp only [Bool.or_eq_true, Bool.and_eq_true, decide_eq_true_eq, beq_iff_eq, ge_iff_le,
    UInt32.le_iff_toNat_le] at h
  rcases h with ((h | h) | h) | rfl
  · exact ⟨Nat.le_trans (by decide) h.1, Nat.le_trans h.2 (by decide)⟩
  · exact ⟨Nat.le_trans (by decide) h.1, Nat.le_trans h.2 (by decide)⟩
  · exact ⟨Nat.le_trans (by decide) h.1, Nat.le_trans h.2 (by decide)⟩
  · decide

theorem isBlank_of_isNameChar {c : Char} (h : isNameChar c = true) : Text.isBlank c = false := by
  obtain ⟨hlow, hhigh⟩ := toNat_of_isNameChar h
  simp only [Text.isBlank, Bool.or_eq_false_iff, Bool.and_eq_false_iff, decide_eq_false_iff_not,
    beq_eq_false_iff_ne]
  omega

/-- Neither a blank nor a character of a name begins a delimiter. -/
theorem isPlain_of_isBlank_or {c : Char} (h : Text.isBlank c = true ∨ isNameChar c = true) :
    isPlain c = true := by
  have hne : c ≠ '<' ∧ c ≠ '%' ∧ c ≠ '-' := by
    refine ⟨?_, ?_, ?_⟩
    all_goals
      rintro rfl
      exact absurd h (by decide)
  simp only [isPlain, Bool.and_eq_true, bne_iff_ne]
  exact ⟨⟨hne.1, hne.2.1⟩, hne.2.2⟩

/-! ## Names -/

/-- A field name is made of name characters, and is not empty. -/
theorem isNameChar_of_isFieldName {name : List Char} (h : isFieldName name = true) :
    name ≠ [] ∧ ∀ c ∈ name, isNameChar c = true := by
  cases name with
  | nil => exact absurd h (by decide)
  | cons c cs =>
    simp only [isFieldName, Bool.and_eq_true, List.all_eq_true] at h
    refine ⟨List.cons_ne_nil c cs, fun x hx => ?_⟩
    rcases List.mem_cons.mp hx with rfl | hx
    · simp only [isNameStart, Bool.or_eq_true] at h
      simp only [isNameChar, Char.isAlphanum, Bool.or_eq_true]
      exact h.1.imp .inl id
    · exact h.2 x hx

theorem takeWhile_isBlank_append {cs : List Char} (hne : cs ≠ [])
    (h : ∀ c ∈ cs, Text.isBlank c = false) (rest : List Char) :
    (cs ++ rest).takeWhile Text.isBlank = [] ∧
      (cs ++ rest).dropWhile Text.isBlank = cs ++ rest := by
  cases cs with
  | nil => exact absurd rfl hne
  | cons c cs =>
    have hc : ¬ Text.isBlank c = true := by rw [h c List.mem_cons_self]; exact Bool.false_ne_true
    rw [List.cons_append, List.takeWhile_cons_of_neg hc, List.dropWhile_cons_of_neg hc]
    exact ⟨rfl, rfl⟩

/-- **Between blanks, trimming leaves the name**, and the blanks in front are the leading ones. -/
theorem trim_name {left name right : List Char} (hleft : ∀ c ∈ left, Text.isBlank c = true)
    (hname : isFieldName name = true) (hright : ∀ c ∈ right, Text.isBlank c = true) :
    Text.trim (left ++ name ++ right) = name ∧
      Text.leadingBlanks (left ++ name ++ right) = left := by
  obtain ⟨hne, hchars⟩ := isNameChar_of_isFieldName hname
  have hblank : ∀ c ∈ name, Text.isBlank c = false := fun c hc =>
    isBlank_of_isNameChar (hchars c hc)
  have hback : ∀ c ∈ name.reverse, Text.isBlank c = false := fun c hc =>
    hblank c (List.mem_reverse.mp hc)
  have hrev : ∀ c ∈ right.reverse, Text.isBlank c = true := fun c hc =>
    hright c (List.mem_reverse.mp hc)
  obtain ⟨htake, hdrop⟩ := takeWhile_isBlank_append hne hblank right
  have hneBack : name.reverse ≠ [] := fun h => hne (List.reverse_eq_nil_iff.mp h)
  obtain ⟨-, hdropBack⟩ := takeWhile_isBlank_append hneBack hback []
  constructor
  · unfold Text.trim Text.trimEnd Text.trimStart
    rw [List.append_assoc, List.dropWhile_append_of_pos hleft, hdrop, List.reverse_append,
      List.dropWhile_append_of_pos hrev]
    rw [List.append_nil] at hdropBack
    rw [hdropBack, List.reverse_reverse]
  · unfold Text.leadingBlanks
    rw [List.append_assoc, List.takeWhile_append_of_pos hleft, htake, List.append_nil]

/-- **Trimming takes blanks off both ends** and nothing else. -/
theorem exists_trim (body : List Char) :
    ∃ right, (∀ c ∈ right, Text.isBlank c = true) ∧
      body = Text.leadingBlanks body ++ Text.trim body ++ right := by
  refine ⟨((Text.trimStart body).reverse.takeWhile Text.isBlank).reverse, fun c hc => ?_, ?_⟩
  · exact List.all_eq_true.mp List.all_takeWhile c (List.mem_reverse.mp hc)
  · rw [Text.trim, Text.trimEnd, List.append_assoc, ← List.reverse_append,
      List.takeWhile_append_dropWhile, List.reverse_reverse, Text.leadingBlanks_append_trimStart]

theorem isBlank_of_mem_leadingBlanks {body : List Char} :
    ∀ c ∈ Text.leadingBlanks body, Text.isBlank c = true :=
  List.all_eq_true.mp List.all_takeWhile

end Doxyfile.Template
