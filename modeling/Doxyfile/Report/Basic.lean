import Doxyfile.Context.RenderError

/-!
# Reports

A `Report` is an error made ready to be shown in its source: a title, the span it is about and a
label that is drawn at the span. A render error has one report for each error in it.
-/

namespace Doxyfile

/-- What is told of an error where it is shown in its source. -/
structure Report where
  title : String
  span : Span
  /-- What is written at the span. -/
  label : String
deriving DecidableEq, Repr

/-- The report of an error in the text of a template: its label also tells what was expected. -/
def Report.ofSyntaxError (error : Template.SyntaxError) : Report where
  title := error.message
  span := error.span
  label :=
    match error.expected with
    | [] => error.message
    | expected => error.message ++ "\nExpected: " ++ String.intercalate ", " expected

/-- The report of a name that no field has: its label offers the suggestions. -/
def Report.ofUnresolved (reference : Reference) (suggestions : List String) : Report where
  title := RenderError.unresolvedMessage reference.name
  span := reference.span
  label :=
    match suggestions with
    | [] => "not a known field"
    | suggestions => RenderError.alternatives suggestions

/-- The reports of an error, in the order of what is told in it. -/
def RenderError.reports : RenderError → List Report
  | .malformed errors => errors.map Report.ofSyntaxError
  | .unresolved reference suggestions => [Report.ofUnresolved reference suggestions]

end Doxyfile
