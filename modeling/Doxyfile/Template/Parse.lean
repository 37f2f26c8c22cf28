import Doxyfile.Template.Defect
import Doxyfile.Template.Piece
import Doxyfile.Template.Segment
import Doxyfile.Text.Blank

/-!
# Parsing a template

Parsing goes from text to tokens, from tokens to pieces and from pieces to segments.

* A tag that is never closed is the only thing told of a template that has one.
* Otherwise every tag is judged by itself (`Tag.judge`), and each one found wanting is told, in
  template order.
* When none is, the pieces are assembled: neighbouring literals become one text segment, and a
  tag closed by `-%>` drops one line break directly after it (`assemble`).

The segments of a text that parses are never empty texts and no two texts are neighbours. Field
names are the shape `isFieldName` tells; whether a field of that name exists is not asked.
-/

namespace Doxyfile.Template

/-! ## Judging a tag -/

/-- Letters and underscores of ASCII can begin a field name. -/
def isNameStart (c : Char) : Bool :=
  c.isAlpha || c == '_'

/-- Letters, digits and underscores of ASCII can go on a field name. -/
def isNameChar (c : Char) : Bool :=
  c.isAlphanum || c == '_'

/-- Whether the characters can name a field. -/
def isFieldName : List Char → Bool
  | [] => false
  | c :: cs => isNameStart c && cs.all isNameChar

/-- The reference that an output tag makes: its body between the blanks, in its own place. -/
def Tag.reference (tag : Tag) : Reference :=
  let name := Text.trim tag.body
  let start := tag.span.start + Text.byteLength tag.kind.source +
    Text.byteLength (Text.leadingBlanks tag.body)
  ⟨String.ofList name, ⟨start, start + Text.byteLength name⟩⟩

/-- What a tag stands for, or what is wrong with it. -/
def Tag.judge (tag : Tag) : Except Defect Segment :=
  match tag.kind with
  | .comment => .ok .comment
  | .code => .error .codeTag
  | .output =>
    let name := Text.trim tag.body
    if isFieldName name then .ok (.field tag.reference)
    else if name.isEmpty then .error .emptyOutput
    else .error (.invalidName (String.ofList name))

/-- The error of a piece that is a tag found wanting. It is placed at the whole tag. -/
def Piece.error? : Piece → Option SyntaxError
  | .literal _ => none
  | .tag found =>
    match found.judge with
    | .ok _ => none
    | .error defect => some (defect.at found.span)

/-! ## Assembling segments -/

/-- The text without one line break at its head. -/
def dropLineBreak : List Char → List Char
  | '\r' :: '\n' :: cs => cs
  | '\n' :: cs => cs
  | cs => cs

/-- The segments of the pieces. `trims` says that the piece before was a tag whose closer takes a
line break with it. A tag found wanting gives no segment. -/
def assemble (trims : Bool) : List Piece → List Segment
  | [] => []
  | .literal content :: pieces =>
    let kept := if trims then dropLineBreak content else content
    Segment.prepend (String.ofList kept) (assemble false pieces)
  | .tag tag :: pieces =>
    match tag.judge with
    | .ok segment => segment :: assemble tag.trims pieces
    | .error _ => assemble trims pieces

/-- Parses a template, or says everything that is wrong with it. -/
def parse (text : String) : Except (List SyntaxError) Template :=
  match Piece.ofLexemes (lex text) with
  | none =>
    let stop := Text.byteLength text.toList
    .error [Defect.unclosedTag.at ⟨stop, stop⟩]
  | some pieces =>
    match pieces.filterMap Piece.error? with
    | [] => .ok ⟨assemble false pieces⟩
    | errors => .error errors

end Doxyfile.Template
