import Doxyfile.Proofs.Text.Splicing

/-!
# What stands at a span

A span is two numbers. `At text span content` says that they belong to the text: its bytes from the
span's start to the span's stop are those of `content`, and both ends fall between two characters.
`Before text place content` says that the content ends at a place.

Where a text is cut at a byte, what stands behind the cut is told by what is behind it, and what
stands in front of it by what is in front (`at_append_iff`, `before_append_iff`).
-/

namespace Doxyfile.Text

/-- **The characters `content` stand in the text at the span.** -/
def At (text : List Char) (span : Span) (content : List Char) : Prop :=
  ∃ front back, text = front ++ content ++ back ∧
    span = ⟨byteLength front, byteLength front + byteLength content⟩

namespace At

variable {text content : List Char} {span : Span}

/-- A span that holds something lies within the text. -/
theorem stop_le (h : At text span content) : span.stop ≤ byteLength text := by
  obtain ⟨front, back, rfl, rfl⟩ := h
  simp only [byteLength_append]
  omega

theorem stop_eq (h : At text span content) : span.stop = span.start + byteLength content := by
  obtain ⟨front, back, -, rfl⟩ := h
  rfl

/-- The bytes of the text that the span names are those of the characters. -/
theorem extract_eq {text : String} (h : At text.toList span content) :
    String.Pos.Raw.extract text ⟨span.start⟩ ⟨span.stop⟩ = String.ofList content := by
  obtain ⟨front, back, htext, rfl⟩ := h
  exact Text.extract_eq htext

/-- **A part of the characters stands where the part in front of it ends.** -/
theorem inside {first middle last : List Char} (h : At text span (first ++ middle ++ last)) :
    At text ⟨span.start + byteLength first, span.start + byteLength first + byteLength middle⟩
      middle := by
  obtain ⟨front, back, rfl, rfl⟩ := h
  refine ⟨front ++ first, last ++ back, ?_, ?_⟩
  · simp only [List.append_assoc]
  · simp only [byteLength_append]

end At

/-- A text that is not empty takes at least one byte. -/
theorem byteLength_pos {content : List Char} (h : content ≠ []) : 0 < byteLength content := by
  cases content with
  | nil => exact absurd rfl h
  | cons c cs =>
    rw [byteLength_cons]
    exact Nat.lt_add_right _ c.utf8Size_pos

/-! ## Cuts -/

/-- **A text is cut at a byte in one way only.** -/
theorem eq_of_append_eq {front back left right : List Char} (h : front ++ back = left ++ right)
    (hlength : byteLength front = byteLength left) : front = left ∧ back = right := by
  have hnil : ∀ {middle : List Char}, byteLength middle = 0 → middle = [] := by
    intro middle hzero
    by_contra hne
    exact absurd (byteLength_pos hne) (by omega)
  rcases List.append_eq_append_iff.mp h with ⟨middle, rfl, rfl⟩ | ⟨middle, rfl, rfl⟩
  · rw [byteLength_append] at hlength
    rw [hnil (by omega : byteLength middle = 0), List.append_nil, List.nil_append]
    exact ⟨rfl, rfl⟩
  · rw [byteLength_append] at hlength
    rw [hnil (by omega : byteLength middle = 0), List.append_nil, List.nil_append]
    exact ⟨rfl, rfl⟩

/-- What stands behind a cut begins what is behind the cut. -/
theorem at_append_iff {front back content : List Char} {n : Nat} (h : byteLength content = n) :
    At (front ++ back) ⟨byteLength front, byteLength front + n⟩ content ↔ content <+: back := by
  subst h
  constructor
  · rintro ⟨left, right, htext, hspan⟩
    obtain ⟨hstart, -⟩ := Span.mk.inj hspan
    rw [List.append_assoc] at htext
    obtain ⟨rfl, rfl⟩ := eq_of_append_eq htext hstart
    exact List.prefix_append _ _
  · rintro ⟨right, rfl⟩
    exact ⟨front, right, (List.append_assoc _ _ _).symm, rfl⟩

/-- What stands somewhere begins at a cut. -/
theorem At.exists_cut {text content : List Char} {place stop : Nat}
    (h : At text ⟨place, stop⟩ content) :
    ∃ front back, text = front ++ back ∧ byteLength front = place := by
  obtain ⟨front, back, htext, hspan⟩ := h
  exact ⟨front, content ++ back, by rw [htext, List.append_assoc], (Span.mk.inj hspan).1.symm⟩

/-- **The characters stand right in front of the byte `place`.** -/
def Before (text : List Char) (place : Nat) (content : List Char) : Prop :=
  ∃ start, At text ⟨start, place⟩ content

/-- What stands in front of a cut ends what is in front of the cut. -/
theorem before_append_iff {front back content : List Char} :
    Before (front ++ back) (byteLength front) content ↔ content <:+ front := by
  constructor
  · rintro ⟨start, left, right, htext, hspan⟩
    obtain ⟨-, hstop⟩ := Span.mk.inj hspan
    rw [← byteLength_append] at hstop
    obtain ⟨rfl, -⟩ := eq_of_append_eq htext hstop
    exact List.suffix_append _ _
  · rintro ⟨left, rfl⟩
    exact ⟨byteLength left, left, back, rfl, by rw [byteLength_append]⟩

end Doxyfile.Text
