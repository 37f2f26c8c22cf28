import Doxyfile.Settings.Basic

/-!
# Options of the command line

`Options` are what the arguments of a run have come to. Values for fields are settings like any
other; an option for a list adds to the list that the options before it have made, and any other
option is given at most once.
-/

namespace Doxyfile

/-- What the arguments of a run ask for. -/
structure Options where
  /-- The file of the template; the standard input when there is none. -/
  template : Option String := none
  /-- The file of the settings. -/
  config : Option String := none
  /-- The file to write; the standard output when there is none. -/
  output : Option String := none
  /-- The fields that options set. -/
  overrides : Settings := {}
  check : Bool := false
  printTemplate : Bool := false
  fields : Bool := false
  verbose : Bool := false
deriving DecidableEq, Repr

/-- An option that takes a value. -/
inductive ValueOption where
  | config
  | output
  | commitNumber
  | projectVersion
  | mainpage
  | input
  | examplePath
  | stripFromPath
deriving DecidableEq, Repr

/-- An option without a value. -/
inductive Flag where
  | check
  | printTemplate
  | fields
  | verbose
deriving DecidableEq, Repr

/-- Why arguments are not understood. -/
inductive UsageError where
  | unknownOption (text : String)
  | missingValue (option : ValueOption)
  /-- A value is given to an option that takes none. -/
  | unexpectedValue (text : String)
  | repeated (text : String)
  | invalidValue (text : String)
  /-- There is more than one argument that is no option. -/
  | unexpectedArgument (text : String)
deriving DecidableEq, Repr

/-- The option as it is written in full. -/
def ValueOption.text : ValueOption → String
  | .config => "--config"
  | .output => "--output"
  | .commitNumber => "--commit-number"
  | .projectVersion => "--project-version"
  | .mainpage => "--mainpage"
  | .input => "--input"
  | .examplePath => "--example-path"
  | .stripFromPath => "--strip-from-path"

/-- The option as it is written in full. -/
def Flag.text : Flag → String
  | .check => "--check"
  | .printTemplate => "--print-template"
  | .fields => "--fields"
  | .verbose => "--verbose"

/-- The error in words. -/
def UsageError.message : UsageError → String
  | .unknownOption text => "unexpected argument '" ++ text ++ "' found"
  | .missingValue option => "a value is required for '" ++ option.text ++ "' but none was supplied"
  | .unexpectedValue text => "unexpected value for '" ++ text ++ "' found; no more were expected"
  | .repeated text => "the argument '" ++ text ++ "' cannot be used multiple times"
  | .invalidValue text => "invalid value '" ++ text ++ "'"
  | .unexpectedArgument text => "unexpected argument '" ++ text ++ "' found"

namespace Options

/-- A value where none has been given yet. -/
def once (option : String) (current : Option α) (value : α) : Except UsageError (Option α) :=
  match current with
  | none => .ok (some value)
  | some _ => .error (.repeated option)

/-- A path, which is not the empty text. -/
def path (text : String) : Except UsageError String :=
  if text.isEmpty then .error (.invalidValue text) else .ok text

/-- A flag in words. -/
def boolean (text : String) : Except UsageError Bool :=
  if text = "true" then .ok true
  else if text = "false" then .ok false
  else .error (.invalidValue text)

/-- A list with one more entry. -/
def more (current : Option (List String)) (entry : String) : Option (List String) :=
  some (current.getD [] ++ [entry])

/-- The options with one given its value. -/
def give (options : Options) (option : ValueOption) (text : String) :
    Except UsageError Options := do
  let overrides := options.overrides
  match option with
  | .config => do
    pure { options with config := ← once option.text options.config (← path text) }
  | .output => do
    pure { options with output := ← once option.text options.output (← path text) }
  | .commitNumber => do
    let commitNumber ← once option.text overrides.commitNumber text
    pure { options with overrides := { overrides with commitNumber } }
  | .projectVersion => do
    let version ← once option.text overrides.version text
    pure { options with overrides := { overrides with version } }
  | .mainpage => do
    let flag ← once option.text overrides.useMdfileAsMainpage (← boolean text)
    pure { options with overrides := { overrides with useMdfileAsMainpage := flag } }
  | .input =>
    pure { options with overrides := { overrides with input := more overrides.input text } }
  | .examplePath =>
    pure { options with
      overrides := { overrides with examplePath := more overrides.examplePath text } }
  | .stripFromPath =>
    pure { options with
      overrides := { overrides with stripFromPath := more overrides.stripFromPath text } }

/-- Whether a flag is raised. -/
def isRaised (options : Options) : Flag → Bool
  | .check => options.check
  | .printTemplate => options.printTemplate
  | .fields => options.fields
  | .verbose => options.verbose

/-- The options with a flag raised that was not. -/
def raiseFlag (options : Options) (flag : Flag) : Except UsageError Options :=
  if options.isRaised flag then .error (.repeated flag.text)
  else
    match flag with
    | .check => .ok { options with check := true }
    | .printTemplate => .ok { options with printTemplate := true }
    | .fields => .ok { options with fields := true }
    | .verbose => .ok { options with verbose := true }

/-- The options with the file of the template given. -/
def giveTemplate (options : Options) (text : String) : Except UsageError Options := do
  match options.template with
  | none => pure { options with template := some (← path text) }
  | some _ => throw (.unexpectedArgument text)

end Options

end Doxyfile
