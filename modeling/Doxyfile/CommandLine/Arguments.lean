import Doxyfile.CommandLine.Options

/-!
# Arguments

Arguments are read from the first to the last, and what is read first decides: a call for help ends
the reading, and so does an error. An option is written in full after two hyphens or as one letter
after a single one, letters of options without values being allowed to share the hyphen. Its value
is joined to it, in full with an equals sign, or is the next argument, which then does not start
with a hyphen unless it is nothing else. After two hyphens alone no argument is an option.
-/

namespace Doxyfile

/-- What a run is asked to do. -/
inductive Invocation where
  | help
  | run (options : Options)
deriving DecidableEq, Repr

/-- What an argument can name. -/
inductive Switch where
  | help
  | flag (flag : Flag)
  | value (option : ValueOption)
deriving DecidableEq, Repr

/-- The options read so far, and the one that waits for its value. -/
inductive Progress where
  | help
  | going (options : Options) (waiting : Option ValueOption)
deriving DecidableEq, Repr

namespace Switch

/-- What a name in full stands for. -/
def ofName? (name : String) : Option Switch :=
  match name with
  | "help" => some .help
  | "check" => some (.flag .check)
  | "print-template" => some (.flag .printTemplate)
  | "fields" => some (.flag .fields)
  | "verbose" => some (.flag .verbose)
  | "config" => some (.value .config)
  | "output" => some (.value .output)
  | "commit-number" => some (.value .commitNumber)
  | "project-version" => some (.value .projectVersion)
  | "mainpage" => some (.value .mainpage)
  | "input" => some (.value .input)
  | "example-path" => some (.value .examplePath)
  | "strip-from-path" => some (.value .stripFromPath)
  | _ => none

/-- What a letter stands for. -/
def ofLetter? (letter : Char) : Option Switch :=
  match letter with
  | 'h' => some .help
  | 'v' => some (.flag .verbose)
  | 'c' => some (.value .config)
  | 'o' => some (.value .output)
  | _ => none

end Switch

namespace Progress

/-- Reads what follows two hyphens: a name, and perhaps an equals sign and a value. -/
def readName (options : Options) (cs : List Char) : Except UsageError Progress := do
  let name := String.ofList (cs.takeWhile (· != '='))
  let value :=
    match cs.dropWhile (· != '=') with
    | '=' :: cs => some (String.ofList cs)
    | _ => none
  match Switch.ofName? name, value with
  | none, _ => throw (.unknownOption ("--" ++ name))
  | some .help, none => pure .help
  | some (.flag flag), none => pure (.going (← options.raiseFlag flag) none)
  | some (.value option), none => pure (.going options (some option))
  | some (.value option), some value => pure (.going (← options.give option value) none)
  | some _, some _ => throw (.unexpectedValue ("--" ++ name))

/-- Reads the letters that follow one hyphen. What follows the letter of an option with a value is
the value, an equals sign in front of it left out. -/
def readLetters (options : Options) : List Char → Except UsageError Progress
  | [] => pure (.going options none)
  | letter :: cs => do
    match Switch.ofLetter? letter with
    | none => throw (.unknownOption ("-" ++ letter.toString))
    | some .help => pure .help
    | some (.flag flag) => readLetters (← options.raiseFlag flag) cs
    | some (.value option) =>
      match cs with
      | [] => pure (.going options (some option))
      | '=' :: cs => pure (.going (← options.give option (String.ofList cs)) none)
      | cs => pure (.going (← options.give option (String.ofList cs)) none)

end Progress

namespace Invocation

/-- Whether an argument starts as an option does. -/
def looksLikeOption (argument : String) : Bool :=
  match argument.toList with
  | '-' :: _ :: _ => true
  | _ => false

/-- Reads arguments, given the options that those before them have made and the one that waits for
its value. -/
def read (options : Options) (waiting : Option ValueOption) :
    List String → Except UsageError Invocation
  | [] =>
    match waiting with
    | none => pure (.run options)
    | some option => throw (.missingValue option)
  | argument :: arguments => do
    match waiting with
    | some option =>
      if looksLikeOption argument then throw (.missingValue option)
      else read (← options.give option argument) none arguments
    | none =>
      if argument = "--" then pure (.run (← arguments.foldlM Options.giveTemplate options))
      else
        let progress ←
          match argument.toList with
          | '-' :: '-' :: cs => Progress.readName options cs
          | '-' :: letter :: cs => Progress.readLetters options (letter :: cs)
          | _ => do pure (.going (← options.giveTemplate argument) none)
        match progress with
        | .help => pure .help
        | .going options waiting => read options waiting arguments

/-- What arguments ask for. -/
def ofArguments (arguments : List String) : Except UsageError Invocation :=
  read {} none arguments

end Invocation

end Doxyfile
