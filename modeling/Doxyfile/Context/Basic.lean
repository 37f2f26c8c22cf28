import Doxyfile.Context.RenderError
import Doxyfile.Context.Values
import Doxyfile.Template.Parse

/-!
# Contexts: a template and the values to fill it with

The template's text stays as it was given and is parsed only when it is rendered or checked, so a
context can hold a text that does not parse. Its values change by `Edit`s.

`Context.render` fills the template. `Context.check` asks for the same fields, in the same order,
and gives their names in place of a text. Neither changes the context, and no value can make a
lookup fail: only the names in the template decide that.
-/

namespace Doxyfile

/-- A template and the values to fill it with. -/
structure Context where
  template : String
  values : Values
deriving DecidableEq, Repr

/-- A change to the values of a context. -/
inductive Edit where
  /-- Gives one field a value. -/
  | assign (assignment : Assignment)
  /-- Makes the flag unset. -/
  | clearFlag
  /-- Gives every field a value that the settings set. -/
  | apply (settings : Settings)
deriving DecidableEq, Repr

namespace Context

/-- A context with nothing set. -/
def ofTemplate (template : String) : Context :=
  ⟨template, {}⟩

/-- The context with one field given a value. -/
def assign (context : Context) (assignment : Assignment) : Context :=
  { context with values := context.values.assign assignment }

/-- The context with the flag unset. -/
def clearFlag (context : Context) : Context :=
  { context with values := context.values.clearFlag }

/-- The context with every field given a value that the settings set. -/
def apply (context : Context) (settings : Settings) : Context :=
  { context with values := context.values.apply settings }

/-- A context with the values that the settings set. -/
def ofSettings (template : String) (settings : Settings) : Context :=
  (ofTemplate template).apply settings

/-- The context after an edit. -/
def edit (context : Context) : Edit → Context
  | .assign assignment => context.assign assignment
  | .clearFlag => context.clearFlag
  | .apply settings => context.apply settings

/-! ## Looking up, rendering and checking -/

/-- The written form of the field of a name, if there is such a field. -/
def field? (context : Context) (name : String) : Option String :=
  (Field.ofName? name).map context.values.text

/-- The answer to a reference. -/
def resolve (context : Context) (reference : Reference) : Except RenderError String :=
  match context.field? reference.name with
  | some text => .ok text
  | none => .error (.unresolved reference (RenderError.suggest reference.name))

/-- The template of the context, parsed. -/
def parsed (context : Context) : Except RenderError Template :=
  (Template.parse context.template).mapError .malformed

/-- The template filled with the values. -/
def render (context : Context) : Except RenderError String := do
  (← context.parsed).fill context.resolve

/-- The names that the template asks for, in its order, when each is the name of a field. -/
def check (context : Context) : Except RenderError (List String) := do
  (← context.parsed).references.mapM fun reference => do
    let _ ← context.resolve reference
    pure reference.name

end Context

/-- The template filled with the values that the settings set. -/
def render (template : String) (settings : Settings) : Except RenderError String :=
  (Context.ofSettings template settings).render

end Doxyfile
