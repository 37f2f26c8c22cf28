import Doxyfile.Template.Defect
import Doxyfile.Template.Segment
import Doxyfile.Field
import Doxyfile.Text.Distance

/-!
# Why a template is not filled

Either its text is malformed, and everything wrong with it is told at once, or it asks for a name
that no field has. In the second case the names of fields that are at most two edits away are
offered in its place.
-/

namespace Doxyfile

/-- Why a template is not filled. -/
inductive RenderError where
  /-- The text of the template is malformed. -/
  | malformed (errors : List Template.SyntaxError)
  /-- No field has the name that is asked for. -/
  | unresolved (reference : Reference) (suggestions : List String)
deriving DecidableEq, Repr

namespace RenderError

/-- The most edits between a name and a suggestion for it. -/
def suggestionLimit : Nat := 2

/-- The names of fields that are near to a name, in the order of the fields. -/
def suggest (name : String) : List String :=
  Field.names.filter fun candidate =>
    Text.distance name.toList candidate.toList ≤ suggestionLimit

/-- Suggestions as a question asks for one of them. -/
def alternatives (suggestions : List String) : String :=
  "did you mean " ++ String.intercalate " or " suggestions ++ "?"

/-- What is said of a name that no field has. -/
def unresolvedMessage (name : String) : String :=
  "unresolved field '" ++ name ++ "'"

/-- The error on one line. -/
def message : RenderError → String
  | .malformed errors =>
    "parse errors: " ++ String.intercalate "; " (errors.map Template.SyntaxError.display)
  | .unresolved reference [] => unresolvedMessage reference.name
  | .unresolved reference suggestions =>
    unresolvedMessage reference.name ++ " (" ++ alternatives suggestions ++ ")"

/-- The suggestions of an error that can have some. -/
def suggestions? : RenderError → Option (List String)
  | .malformed _ => none
  | .unresolved _ suggestions => some suggestions

end RenderError

end Doxyfile
