import Doxyfile.Text.Span

/-!
# Segments: a template that has been read

A `Template` is a list of segments: literal text, references to fields, and comments. Filling it
replaces every reference by an answer to that reference and drops the comments.

`Template.fill` asks for the answers in an arbitrary monad, so one definition serves a plain
function, a lookup that can refuse and a lookup whose answers depend on the questions before. The
questions are asked in template order, and none after a refusal.

A template made by hand may hold any names and spans; what reading a text guarantees about them is
not part of the type.
-/

namespace Doxyfile

/-- A field asked for by name, and where the name stands. -/
structure Reference where
  name : String
  span : Span
deriving DecidableEq, Repr

/-- A part of a template. -/
inductive Segment where
  /-- Characters copied to the output. -/
  | text (content : String)
  /-- A place for the value of a field. -/
  | field (reference : Reference)
  /-- A comment, of which nothing is written. -/
  | comment
deriving DecidableEq, Repr

/-- A template, part by part. -/
structure Template where
  segments : List Segment
deriving DecidableEq, Repr

/-- The reference in a segment, if it holds one. -/
def Segment.reference? : Segment → Option Reference
  | .field reference => some reference
  | .text _ => none
  | .comment => none

/-- The references of a template in its order. -/
def Template.references (template : Template) : List Reference :=
  template.segments.filterMap Segment.reference?

/-- What a segment becomes when `lookup` answers for fields. -/
def Segment.fill [Monad m] (lookup : Reference → m String) : Segment → m String
  | .text content => pure content
  | .field reference => lookup reference
  | .comment => pure ""

/-- What the segments become one after the other, the first to refuse ending it. -/
def Segment.fillAll [Monad m] (lookup : Reference → m String) : List Segment → m String
  | [] => pure ""
  | segment :: segments => do
    let first ← segment.fill lookup
    let others ← fillAll lookup segments
    pure (first ++ others)

/-- What the template becomes when `lookup` answers for fields. -/
def Template.fill [Monad m] (lookup : Reference → m String) (template : Template) : m String :=
  Segment.fillAll lookup template.segments

/-- Puts literal text in front of segments: joined to text that follows, and dropped when empty. -/
def Segment.prepend (content : String) : List Segment → List Segment
  | .text next :: segments => .text (content ++ next) :: segments
  | segments => if content.isEmpty then segments else .text content :: segments

end Doxyfile
