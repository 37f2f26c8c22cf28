import Doxyfile.Field

/-!
# Settings: values that may be absent

`Settings` give some of the fields a value and say nothing of the others. A field set to the empty
text or the empty list is set: it covers a value underneath, which an unset field lets through.

Settings are laid over one another by `Settings.merge`, where the upper ones win field by field; a
list is taken whole, never added to.
-/

namespace Doxyfile

/-- A value for each of the fields, or none. -/
structure Settings where
  commitNumber : Option String := none
  version : Option String := none
  useMdfileAsMainpage : Option Bool := none
  input : Option (List String) := none
  examplePath : Option (List String) := none
  stripFromPath : Option (List String) := none
deriving DecidableEq, Repr

/-- Settings that set nothing. -/
def Settings.empty : Settings := {}

/-- The settings with one field set. -/
def Settings.assign (settings : Settings) : Assignment → Settings
  | .commitNumber text => { settings with commitNumber := some text }
  | .version text => { settings with version := some text }
  | .useMdfileAsMainpage flag => { settings with useMdfileAsMainpage := some flag }
  | .input paths => { settings with input := some paths }
  | .examplePath paths => { settings with examplePath := some paths }
  | .stripFromPath paths => { settings with stripFromPath := some paths }

/-- The settings with `upper` laid over them: what `upper` sets wins. -/
def Settings.merge (lower upper : Settings) : Settings where
  commitNumber := upper.commitNumber.or lower.commitNumber
  version := upper.version.or lower.version
  useMdfileAsMainpage := upper.useMdfileAsMainpage.or lower.useMdfileAsMainpage
  input := upper.input.or lower.input
  examplePath := upper.examplePath.or lower.examplePath
  stripFromPath := upper.stripFromPath.or lower.stripFromPath

end Doxyfile
