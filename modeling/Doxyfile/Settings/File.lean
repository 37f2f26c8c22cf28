import Doxyfile.Files.Host
import Doxyfile.Settings.Schema

/-!
# Settings in a file
-/

namespace Doxyfile

/-- Why a file gives no settings. -/
inductive SettingsFileError where
  /-- The file is not read. -/
  | unreadable (error : FileError)
  /-- The text of the file is no settings. -/
  | invalid (error : SettingsError)
deriving Repr

/-- The error on one line. What is wrong with a text that is no document is not told. -/
def SettingsError.message : SettingsError → String
  | .malformed => "not a TOML document"
  | .schema error => error.message

/-- The error on one line. -/
def SettingsFileError.message : SettingsFileError → String
  | .unreadable error => "Failed to read config file: " ++ error.message
  | .invalid error => "Failed to parse config TOML: " ++ error.message

/-- The settings in a file. -/
def Settings.ofFile [Monad m] (host : Host m) (path : String) :
    m (Except SettingsFileError Settings) := do
  match ← host.readFile path with
  | .error error => pure (.error (.unreadable error))
  | .ok text => pure ((Settings.ofToml text).mapError .invalid)

end Doxyfile
