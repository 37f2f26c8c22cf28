/-!
# The help text
-/

namespace Doxyfile.CommandLine

/-- The lines of the help text. -/
def helpLines : List String :=
  [ "Render a Doxygen configuration file from a template"
  , ""
  , "Usage: doxyfile-gen [OPTIONS] [TEMPLATE]"
  , ""
  , "Arguments:"
  , "  [TEMPLATE]  Template file (reads from stdin if not provided)"
  , ""
  , "Options:"
  , "  -c, --config <CONFIG>"
  , "          Field values (TOML format)"
  , "  -o, --output <OUTPUT>"
  , "          Output file (writes to stdout if not provided)"
  , "      --commit-number <COMMIT_NUMBER>"
  , "          Commit number, overrides the config file"
  , "      --project-version <PROJECT_VERSION>"
  , "          Project version, overrides the config file"
  , "      --mainpage <BOOL>"
  , "          Set use_mdfile_as_mainpage (true or false), overrides the config file "
    ++ "[possible values: true, false]"
  , "      --input <PATH>"
  , "          Input path (repeatable, replaces the configured list)"
  , "      --example-path <PATH>"
  , "          Example path (repeatable, replaces the configured list)"
  , "      --strip-from-path <PATH>"
  , "          Path prefix to strip (repeatable, replaces the configured list)"
  , "      --check"
  , "          Validate the template and list its field references"
  , "      --print-template"
  , "          Print the built-in Doxyfile template"
  , "      --fields"
  , "          List the fields a template can reference"
  , "  -v, --verbose"
  , "          Log progress to stderr"
  , "  -h, --help"
  , "          Print help" ]

/-- The help text. -/
def help : String :=
  String.join (helpLines.map (· ++ "\n"))

end Doxyfile.CommandLine
