import Doxyfile.PathList
import Doxyfile.Settings.Basic

/-!
# Values: what the fields hold while a template is filled

Texts start empty and lists start empty; the flag alone can be unset, and is then written as
nothing. `Values.text` writes a field from what it holds at that moment, so no written form is ever
out of date.
-/

namespace Doxyfile

/-- What each of the fields holds. -/
structure Values where
  commitNumber : String := ""
  version : String := ""
  /-- Unset until a flag is given. -/
  useMdfileAsMainpage : Option Bool := none
  input : List String := []
  examplePath : List String := []
  stripFromPath : List String := []
deriving DecidableEq, Repr

namespace Values

/-- A flag as it is written; nothing when it is unset. -/
def flagText : Option Bool → String
  | none => ""
  | some true => "true"
  | some false => "false"

/-- A field as it is written. -/
def text (values : Values) : Field → String
  | .commitNumber => values.commitNumber
  | .version => values.version
  | .useMdfileAsMainpage => flagText values.useMdfileAsMainpage
  | .input => PathList.joined values.input
  | .examplePath => PathList.joined values.examplePath
  | .stripFromPath => PathList.joined values.stripFromPath

/-- The values with one field replaced. -/
def assign (values : Values) : Assignment → Values
  | .commitNumber text => { values with commitNumber := text }
  | .version text => { values with version := text }
  | .useMdfileAsMainpage flag => { values with useMdfileAsMainpage := some flag }
  | .input paths => { values with input := paths }
  | .examplePath paths => { values with examplePath := paths }
  | .stripFromPath paths => { values with stripFromPath := paths }

/-- The values with the flag unset again. -/
def clearFlag (values : Values) : Values :=
  { values with useMdfileAsMainpage := none }

/-- The values with every field replaced that the settings set. -/
def apply (values : Values) (settings : Settings) : Values where
  commitNumber := settings.commitNumber.getD values.commitNumber
  version := settings.version.getD values.version
  useMdfileAsMainpage := settings.useMdfileAsMainpage.or values.useMdfileAsMainpage
  input := settings.input.getD values.input
  examplePath := settings.examplePath.getD values.examplePath
  stripFromPath := settings.stripFromPath.getD values.stripFromPath

end Values

end Doxyfile
