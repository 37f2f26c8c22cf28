import Mathlib.Data.String.Basic
import Doxyfile.Text.Span

/-!
# Replacing a stretch of a text

`splice` replaces the bytes of a span. A span whose ends fall between characters cuts the text into
three runs of characters, and then the one in the middle is replaced (`toList_splice`).
-/

namespace Doxyfile.Text

/-- **The text with the bytes of a span replaced.** -/
def splice (text : String) (span : Span) (replacement : String) : String :=
  String.Pos.Raw.extract text ⟨0⟩ ⟨span.start⟩ ++ replacement ++
    String.Pos.Raw.extract text ⟨span.stop⟩ text.rawEndPos

theorem byteLength_eq_utf8Len (cs : List Char) : byteLength cs = String.utf8Len cs := by
  induction cs with
  | nil => rfl
  | cons c cs ih => rw [byteLength_cons, String.utf8Len_cons, ih, Nat.add_comm]

theorem extract_eq {text : String} {front middle back : List Char}
    (h : text.toList = front ++ middle ++ back) :
    String.Pos.Raw.extract text ⟨byteLength front⟩ ⟨byteLength front + byteLength middle⟩ =
      String.ofList middle := by
  obtain rfl : text = String.ofList (front ++ middle ++ back) := by rw [← h, String.ofList_toList]
  rw [byteLength_eq_utf8Len, byteLength_eq_utf8Len]
  exact String.extract_of_valid front middle back

theorem utf8ByteSize_eq (text : String) : text.utf8ByteSize = byteLength text.toList := by
  rw [byteLength_eq_utf8Len, String.utf8Len_toList]

theorem rawEndPos_eq (text : String) : text.rawEndPos = ⟨byteLength text.toList⟩ := by
  rw [byteLength_eq_utf8Len, String.utf8Len_toList]
  rfl

/-- **Between characters, a run of them is replaced.** -/
theorem toList_splice {text : String} {front middle back : List Char}
    (h : text.toList = front ++ middle ++ back) (replacement : String) :
    (splice text ⟨byteLength front, byteLength front + byteLength middle⟩ replacement).toList =
      front ++ replacement.toList ++ back := by
  have hfront : text.toList = [] ++ front ++ (middle ++ back) := by
    rw [h, List.nil_append, List.append_assoc]
  have hback : text.toList = front ++ middle ++ back ++ [] := by rw [h, List.append_nil]
  have hfirst := extract_eq hfront
  have hlast := extract_eq hback
  rw [byteLength_nil, Nat.zero_add] at hfirst
  rw [← byteLength_append, ← h, ← rawEndPos_eq, byteLength_append] at hlast
  rw [splice, hfirst, hlast]
  simp only [String.toList_append, String.toList_ofList]

end Doxyfile.Text
