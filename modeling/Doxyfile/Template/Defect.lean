import Doxyfile.Text.Span

/-!
# What can be wrong with a template's text

A `Defect` is a cause: a tag that is never closed, a tag that asks for code, an output tag that is
empty or holds no field name. A `SyntaxError` is what is told about it: a place, a message and the
things that were expected there. The texts are given in one place, `Defect.message` and
`Defect.expected`.
-/

namespace Doxyfile.Template

/-- Something in a template's text that keeps it from being read. -/
inductive Defect where
  /-- The template ends inside of a tag. -/
  | unclosedTag
  /-- An output tag holds nothing but blanks. -/
  | emptyOutput
  /-- An output tag holds, between blanks, something that is no field name. -/
  | invalidName (body : String)
  /-- A tag asks for code to be run. -/
  | codeTag
deriving DecidableEq, Repr

/-- What is told of a defect and where. -/
structure SyntaxError where
  span : Span
  message : String
  /-- What would have been right at that place. -/
  expected : List String
deriving DecidableEq, Repr

/-- The defect in words. -/
def Defect.message : Defect → String
  | .unclosedTag => "Unexpected end of template"
  | .emptyOutput => "empty output tag"
  | .invalidName body => "'" ++ body ++ "' is not a valid field name"
  | .codeTag => "code tags are not supported, use '<%=' to insert a field"

/-- What would have been right where the defect stands. -/
def Defect.expected : Defect → List String
  | .unclosedTag => ["'%>'", "'-%>'"]
  | .emptyOutput => ["field name"]
  | .invalidName _ => ["field name"]
  | .codeTag => []

/-- The defect told at a place. -/
def Defect.at (span : Span) (defect : Defect) : SyntaxError :=
  ⟨span, defect.message, defect.expected⟩

/-- The error on one line. -/
def SyntaxError.display (error : SyntaxError) : String :=
  "Parse error at " ++ error.span.display ++ ": " ++ error.message

end Doxyfile.Template
