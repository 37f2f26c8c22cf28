/-!
# Spans, and the bytes a text takes

A `Span` names a stretch of a text by its two ends, counted in UTF-8 bytes from the text's start,
the second end excluded. Texts themselves are lists of characters wherever the library takes them
apart, so `byteLength` says how far a list of characters moves such a count.

Nothing here asks whether an end falls on a character boundary, or within any text.
-/

namespace Doxyfile

/-- A stretch of a text: `start` is its first byte, `stop` the byte after its last. -/
structure Span where
  start : Nat
  stop : Nat
deriving DecidableEq, Repr

/-- A span as messages write it, `3..9`. -/
def Span.display (span : Span) : String :=
  s!"{span.start}..{span.stop}"

/-- The span moved towards the end of the text by `distance` bytes. -/
def Span.shift (distance : Nat) (span : Span) : Span :=
  ⟨span.start + distance, span.stop + distance⟩

namespace Text

/-- The bytes that the characters take in UTF-8. -/
def byteLength : List Char → Nat
  | [] => 0
  | c :: cs => c.utf8Size + byteLength cs

@[simp] theorem byteLength_nil : byteLength [] = 0 := rfl

@[simp] theorem byteLength_cons (c : Char) (cs : List Char) :
    byteLength (c :: cs) = c.utf8Size + byteLength cs := rfl

@[simp] theorem byteLength_append (as bs : List Char) :
    byteLength (as ++ bs) = byteLength as + byteLength bs := by
  induction as with
  | nil => simp
  | cons c cs ih => simp [ih, Nat.add_assoc]

end Text

end Doxyfile
