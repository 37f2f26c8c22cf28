import Doxyfile.Settings.Basic
import Doxyfile.Text.Quoted
import Doxyfile.Toml.Parse

/-!
# Settings in a TOML document

Settings are written as a document whose keys are names of fields. A document sets the fields whose
keys it has; it is refused at the first entry whose key is no field or whose value is not of the
field's kind, whatever comes after it. In a list the first item that is no string is what is told.
-/

namespace Doxyfile

/-- The kinds of values that settings take. -/
inductive Expectation where
  | string
  | boolean
  | sequence
deriving DecidableEq, Repr

/-- Why the entries of a document are no settings. -/
inductive SchemaError where
  /-- There is no field of that name. -/
  | unknownField (key : String)
  /-- A value is not of the kind that its field takes. -/
  | wrongKind (found : Toml.Value) (wanted : Expectation)
deriving Repr

/-- Why a text is no settings. -/
inductive SettingsError where
  /-- The text is no TOML document. -/
  | malformed
  /-- The entries of the document are no settings. -/
  | schema (error : SchemaError)
deriving Repr

/-! ## Messages -/

/-- The kind of a value in words, and the value itself where it is short. -/
def Toml.Value.describe : Toml.Value → String
  | .string text => "string " ++ Text.quoted text
  | .integer value => "integer `" ++ toString value ++ "`"
  | .float value => "floating point `" ++ value.text ++ "`"
  | .boolean true => "boolean `true`"
  | .boolean false => "boolean `false`"
  | .dateTime => "map"
  | .array _ => "sequence"
  | .table _ => "map"

/-- The kind of a value that is wanted, in words. -/
def Expectation.describe : Expectation → String
  | .string => "a string"
  | .boolean => "a boolean"
  | .sequence => "a sequence"

/-- The error on one line. -/
def SchemaError.message : SchemaError → String
  | .unknownField key =>
    "unknown field `" ++ key ++ "`, expected one of " ++
      String.intercalate ", " (Field.names.map fun name => "`" ++ name ++ "`")
  | .wrongKind found wanted =>
    "invalid type: " ++ found.describe ++ ", expected " ++ wanted.describe

/-! ## Entries -/

/-- A value as a text. -/
def Toml.Value.asString : Toml.Value → Except SchemaError String
  | .string text => .ok text
  | found => .error (.wrongKind found .string)

/-- A value as a flag. -/
def Toml.Value.asBoolean : Toml.Value → Except SchemaError Bool
  | .boolean flag => .ok flag
  | found => .error (.wrongKind found .boolean)

/-- A value as a list of texts. -/
def Toml.Value.asStrings : Toml.Value → Except SchemaError (List String)
  | .array items => items.mapM Toml.Value.asString
  | found => .error (.wrongKind found .sequence)

/-- A value for a field. -/
def Field.assignment (field : Field) (value : Toml.Value) : Except SchemaError Assignment :=
  match field with
  | .commitNumber => .commitNumber <$> value.asString
  | .version => .version <$> value.asString
  | .useMdfileAsMainpage => .useMdfileAsMainpage <$> value.asBoolean
  | .input => .input <$> value.asStrings
  | .examplePath => .examplePath <$> value.asStrings
  | .stripFromPath => .stripFromPath <$> value.asStrings

/-- What an entry of a document sets. -/
def Assignment.ofEntry (entry : String × Toml.Value) : Except SchemaError Assignment :=
  match Field.ofName? entry.1 with
  | some field => field.assignment entry.2
  | none => .error (.unknownField entry.1)

namespace Settings

/-- The settings that the entries of a document make. -/
def ofEntries (entries : Toml.Table) : Except SchemaError Settings := do
  let assignments ← entries.mapM Assignment.ofEntry
  pure (assignments.foldl assign empty)

/-- The settings in the text of a document. -/
def ofToml (text : String) : Except SettingsError Settings :=
  match Toml.parse text with
  | none => .error .malformed
  | some entries => (ofEntries entries).mapError .schema

end Settings

end Doxyfile
