import Doxyfile.CommandLine.Arguments
import Doxyfile.CommandLine.Help
import Doxyfile.Files.Host
import Doxyfile.Context.Basic
import Doxyfile.Report.Drawing
import Doxyfile.Settings.File
import Doxyfile.Template.BuiltIn

/-!
# Runs of the program

A run answers its arguments: it prints the help, the template that comes with the program or the
names of the fields, or it reads settings and a template and then checks or renders. Settings that
options give are laid over those of the file.

The first thing that fails ends a run, with exit code 1 and nothing on the standard output; nothing
is written before the template has been rendered. Arguments that are not understood end it with
exit code 2 before anything is read.
-/

namespace Doxyfile.CommandLine

/-- What a run leaves behind, files apart. -/
structure Outcome where
  code : UInt32
  output : String
  errors : String
deriving DecidableEq, Repr

namespace Outcome

/-- A run that has printed something and ended well. -/
def success (output : String) : Outcome := ⟨0, output, ""⟩

/-- A run that something has ended. -/
def failure (errors : String) : Outcome := ⟨1, "", errors⟩

/-- A run whose arguments are not understood. -/
def misuse (error : UsageError) : Outcome :=
  ⟨2, "", "error: " ++ error.message ++ "\n\nFor more information, try '--help'.\n"⟩

end Outcome

/-- Lines with a line break after each. -/
def lines (texts : List String) : String :=
  String.join (texts.map (· ++ "\n"))

/-! ## What a run reads -/

/-- A template's text, and the name it goes by in reports. -/
structure Source where
  text : String
  filename : String
deriving DecidableEq, Repr

/-- The settings of a run: those of the file, if there is one, and the options over them. -/
def readSettings [Monad m] (host : Host m) (options : Options) :
    m (Except Outcome Settings) := do
  match options.config with
  | none => pure (.ok (Settings.empty.merge options.overrides))
  | some path =>
    match ← Settings.ofFile host path with
    | .ok settings => pure (.ok (settings.merge options.overrides))
    | .error error =>
      pure (.error (.failure ("Error loading config '" ++ path ++ "': " ++ error.message ++ "\n")))

/-- The template of a run. -/
def readSource [Monad m] (host : Host m) (options : Options) : m (Except Outcome Source) := do
  match options.template with
  | some path =>
    match ← host.readFile path with
    | .ok text => pure (.ok ⟨text, path⟩)
    | .error error =>
      pure (.error (.failure ("Error reading file '" ++ path ++ "': " ++ error.message ++ "\n")))
  | none =>
    match ← host.readInput with
    | .ok text => pure (.ok ⟨text, "<stdin>"⟩)
    | .error error =>
      pure (.error (.failure ("Error reading from stdin: " ++ error.message ++ "\n")))

/-! ## What a run does -/

/-- Checks a template: prints the names it asks for. -/
def check (source : Source) (settings : Settings) : Outcome :=
  match (Context.ofSettings source.text settings).check with
  | .ok names => .success (lines names)
  | .error error => .failure (error.format source.text source.filename)

/-- Writes what has been rendered to a file, or prints it. -/
def deliver [Monad m] (host : Host m) (output : Option String) (text : String) : m Outcome := do
  match output with
  | none => pure (.success text)
  | some path =>
    match ← host.writeFile path text with
    | .ok () => pure (.success "")
    | .error error =>
      pure (.failure ("Error writing file '" ++ path ++ "': " ++ error.message ++ "\n"))

/-- Renders a template and delivers the result. -/
def render [Monad m] (host : Host m) (output : Option String) (source : Source)
    (settings : Settings) : m Outcome :=
  match (Context.ofSettings source.text settings).render with
  | .ok text => deliver host output text
  | .error error => pure (.failure (error.format source.text source.filename))

/-- Carries out what options ask for. -/
def run [Monad m] (host : Host m) (options : Options) : m Outcome := do
  if options.printTemplate then pure (.success Template.builtIn)
  else if options.fields then pure (.success (lines Field.names))
  else
    match ← readSettings host options with
    | .error outcome => pure outcome
    | .ok settings =>
      match ← readSource host options with
      | .error outcome => pure outcome
      | .ok source =>
        if options.check then pure (check source settings)
        else render host options.output source settings

/-- Answers arguments. -/
def respond [Monad m] (host : Host m) (arguments : List String) : m Outcome :=
  match Invocation.ofArguments arguments with
  | .error error => pure (.misuse error)
  | .ok .help => pure (.success help)
  | .ok (.run options) => run host options

end Doxyfile.CommandLine
