import Doxyfile.Proofs.Text.Places
import Doxyfile.Text.Blank

/-!
# Line breaks written with a carriage return

`crlf` puts a carriage return in front of every line feed of a text. Each character becomes one or
two characters that are blank exactly when it was, so blanks are cut off both ends as before
(`trim_crlf`), and a word without line breaks is found where it was (`prefix_crlf_iff`).

A place moves by the line feeds in front of it, `breaksBefore`. Between two characters that is where
the characters in front of it end (`add_breaksBefore`).
-/

namespace Doxyfile.Text

/-- A line feed with a carriage return in front of it, any other character by itself. -/
def withReturn (c : Char) : List Char :=
  if c = '\n' then ['\r', '\n'] else [c]

/-- **The text with a carriage return in front of each line feed.** -/
def crlf (cs : List Char) : List Char :=
  cs.flatMap withReturn

/-- The same for strings. -/
def toCrlf (text : String) : String :=
  String.ofList (crlf text.toList)

/-- **The line feeds of a text that begin before a byte.** -/
def breaksBefore : List Char → Nat → Nat
  | [], _ => 0
  | c :: cs, place =>
    if place = 0 then 0 else (if c = '\n' then 1 else 0) + breaksBefore cs (place - c.utf8Size)

/-! ## Characters -/

theorem withReturn_of_ne {c : Char} (h : c ≠ '\n') : withReturn c = [c] :=
  if_neg h

theorem crlf_cons (c : Char) (cs : List Char) : crlf (c :: cs) = withReturn c ++ crlf cs :=
  List.flatMap_cons

theorem crlf_singleton (c : Char) : crlf [c] = withReturn c :=
  List.flatMap_singleton ..

theorem crlf_cons_of_ne {c : Char} (h : c ≠ '\n') (cs : List Char) :
    crlf (c :: cs) = c :: crlf cs := by
  rw [crlf_cons, withReturn_of_ne h, List.singleton_append]

theorem crlf_append (front back : List Char) : crlf (front ++ back) = crlf front ++ crlf back :=
  List.flatMap_append

theorem toCrlf_append (first second : String) :
    toCrlf (first ++ second) = toCrlf first ++ toCrlf second := by
  rw [toCrlf, String.toList_append, crlf_append, String.ofList_append]
  rfl

theorem crlf_eq_self {cs : List Char} (h : '\n' ∉ cs) : crlf cs = cs := by
  induction cs with
  | nil => rfl
  | cons c cs ih =>
    rw [crlf_cons_of_ne (Ne.symm (List.ne_of_not_mem_cons h)), ih (List.not_mem_of_not_mem_cons h)]

theorem crlf_eq_nil_iff {cs : List Char} : crlf cs = [] ↔ cs = [] := by
  cases cs with
  | nil => exact ⟨fun _ => rfl, fun _ => rfl⟩
  | cons c cs =>
    rw [crlf_cons, withReturn]
    split <;> simp

theorem toCrlf_eq_empty_iff {text : String} : toCrlf text = "" ↔ text = "" := by
  rw [toCrlf, ← String.toList_inj, String.toList_ofList, ← String.toList_inj]
  exact crlf_eq_nil_iff

theorem isEmpty_crlf (cs : List Char) : (crlf cs).isEmpty = cs.isEmpty := by
  rw [Bool.eq_iff_iff, List.isEmpty_iff, List.isEmpty_iff, crlf_eq_nil_iff]

theorem head?_crlf (cs : List Char) :
    (crlf cs).head? = cs.head?.map fun c => if c = '\n' then '\r' else c := by
  cases cs with
  | nil => rfl
  | cons c cs =>
    rw [crlf_cons, withReturn]
    by_cases hc : c = '\n'
    · simp [hc]
    · simp [hc]

theorem getLast?_crlf (cs : List Char) : (crlf cs).getLast? = cs.getLast? := by
  rcases List.eq_nil_or_concat cs with rfl | ⟨init, c, rfl⟩
  · rfl
  · rw [List.concat_eq_append, crlf_append, List.getLast?_concat, crlf_singleton, withReturn]
    split
    next hc => rw [hc, List.append_cons, List.getLast?_concat]
    next => rw [List.getLast?_concat]

theorem dropLast_crlf {cs : List Char} (h : cs.getLast? ≠ some '\n') :
    (crlf cs).dropLast = crlf cs.dropLast := by
  rcases List.eq_nil_or_concat cs with rfl | ⟨init, c, rfl⟩
  · rfl
  · rw [List.concat_eq_append, List.getLast?_concat] at h
    have hc : c ≠ '\n' := fun heq => h (heq ▸ rfl)
    rw [List.concat_eq_append, crlf_append, List.dropLast_concat, crlf_cons_of_ne hc]
    exact List.dropLast_concat

/-- **A word without line breaks is at the head as before.** -/
theorem prefix_crlf_iff {word : List Char} (h : ∀ c ∈ word, c ≠ '\r' ∧ c ≠ '\n')
    (cs : List Char) : word <+: crlf cs ↔ word <+: cs := by
  induction word generalizing cs with
  | nil => exact ⟨fun _ => List.nil_prefix, fun _ => List.nil_prefix⟩
  | cons c word ih =>
    obtain ⟨⟨hreturn, hbreak⟩, hword⟩ := List.forall_mem_cons.mp h
    cases cs with
    | nil => exact Iff.rfl
    | cons d cs =>
      by_cases hd : d = '\n'
      · subst hd
        show c :: word <+: '\r' :: '\n' :: crlf cs ↔ _
        rw [List.cons_prefix_cons, List.cons_prefix_cons]
        exact ⟨fun hin => absurd hin.1 hreturn, fun hin => absurd hin.1 hbreak⟩
      · rw [crlf_cons_of_ne hd, List.cons_prefix_cons, List.cons_prefix_cons, ih hword]

/-! ## Blanks -/

/-- **Characters can be cut off the head before or after each is replaced** by characters that are
tested alike. -/
theorem dropWhile_flatMap {p : Char → Bool} {f : Char → List Char}
    (h : ∀ c, f c ≠ [] ∧ ∀ x ∈ f c, p x = p c) (cs : List Char) :
    (cs.flatMap f).takeWhile p = (cs.takeWhile p).flatMap f ∧
      (cs.flatMap f).dropWhile p = (cs.dropWhile p).flatMap f := by
  induction cs with
  | nil => exact ⟨rfl, rfl⟩
  | cons c cs ih =>
    obtain ⟨hne, hall⟩ := h c
    rw [List.flatMap_cons]
    cases hc : p c with
    | true =>
      have hpos : ∀ x ∈ f c, p x = true := fun x hx => (hall x hx).trans hc
      rw [List.takeWhile_append_of_pos hpos, List.dropWhile_append_of_pos hpos,
        List.takeWhile_cons_of_pos hc, List.dropWhile_cons_of_pos hc, ih.1, ih.2]
      exact ⟨rfl, rfl⟩
    | false =>
      obtain ⟨x, xs, hx⟩ := List.exists_cons_of_ne_nil hne
      have hneg : ¬ p x = true := by
        rw [hall x (hx ▸ List.mem_cons_self), hc]
        exact Bool.false_ne_true
      have hcneg : ¬ p c = true := by rw [hc]; exact Bool.false_ne_true
      rw [hx, List.cons_append, List.takeWhile_cons_of_neg hneg, List.dropWhile_cons_of_neg hneg,
        List.takeWhile_cons_of_neg hcneg, List.dropWhile_cons_of_neg hcneg, List.flatMap_cons, hx]
      exact ⟨rfl, rfl⟩

theorem isBlank_withReturn (c : Char) :
    withReturn c ≠ [] ∧ ∀ x ∈ withReturn c, isBlank x = isBlank c := by
  unfold withReturn
  split
  next hc =>
    subst hc
    exact ⟨List.cons_ne_nil _ _, List.forall_mem_cons.mpr ⟨rfl, List.forall_mem_singleton.mpr rfl⟩⟩
  next => exact ⟨List.cons_ne_nil _ _, List.forall_mem_singleton.mpr rfl⟩

theorem leadingBlanks_crlf (cs : List Char) : leadingBlanks (crlf cs) = crlf (leadingBlanks cs) :=
  (dropWhile_flatMap isBlank_withReturn cs).1

/-- **Trimming commutes with the change of line breaks.** -/
theorem trim_crlf (cs : List Char) : trim (crlf cs) = crlf (trim cs) := by
  have hback : ∀ c, (withReturn c).reverse ≠ [] ∧
      ∀ x ∈ (withReturn c).reverse, isBlank x = isBlank c := by
    intro c
    obtain ⟨hne, hall⟩ := isBlank_withReturn c
    exact ⟨fun h => hne (List.reverse_eq_nil_iff.mp h), fun x hx => hall x (List.mem_reverse.mp hx)⟩
  unfold trim trimEnd trimStart crlf
  rw [(dropWhile_flatMap isBlank_withReturn cs).2, List.reverse_flatMap]
  show ((List.flatMap (fun c => (withReturn c).reverse) _).dropWhile isBlank).reverse = _
  rw [(dropWhile_flatMap hback _).2, List.reverse_flatMap]
  simp only [Function.comp_def, List.reverse_reverse]

/-! ## Places -/

theorem byteLength_crlf (cs : List Char) :
    byteLength (crlf cs) = byteLength cs + cs.count '\n' := by
  induction cs with
  | nil => rfl
  | cons c cs ih =>
    by_cases hc : c = '\n'
    · subst hc
      show byteLength ('\r' :: '\n' :: crlf cs) = _
      have hreturn : ('\r' : Char).utf8Size = 1 := rfl
      rw [byteLength_cons, byteLength_cons, byteLength_cons, ih, List.count_cons_self, hreturn]
      omega
    · rw [crlf_cons_of_ne hc, byteLength_cons, byteLength_cons, ih, List.count_cons_of_ne hc]
      omega

theorem breaksBefore_append (front back : List Char) :
    breaksBefore (front ++ back) (byteLength front) = front.count '\n' := by
  induction front with
  | nil =>
    cases back with
    | nil => rfl
    | cons c back => exact if_pos rfl
  | cons c front ih =>
    have hpos : byteLength (c :: front) ≠ 0 :=
      Nat.ne_of_gt (byteLength_pos (List.cons_ne_nil c front))
    rw [List.cons_append, breaksBefore, if_neg hpos, byteLength_cons, Nat.add_sub_cancel_left, ih,
      List.count_cons, Nat.add_comm]
    simp only [beq_iff_eq]

/-- **Where characters end, they end with the line breaks changed**: the place is moved by the line
feeds among them. -/
theorem add_breaksBefore {text front back : List Char} (h : text = front ++ back) :
    byteLength front + breaksBefore text (byteLength front) = byteLength (crlf front) := by
  rw [h, breaksBefore_append, byteLength_crlf]

end Doxyfile.Text
