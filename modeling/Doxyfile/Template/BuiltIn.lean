/-!
# A small template that uses every field
-/

namespace Doxyfile.Template

/-- The lines of the template that comes with the program. -/
def builtInLines : List String :=
  [ "# Doxyfile rendered by doxyfile-gen"
  , "<%# version and commit number identify the documented build -%>"
  , "PROJECT_NUMBER         = <%= version %> (<%= commit_number %>)"
  , "INPUT                  =<%= input %>"
  , "EXAMPLE_PATH           =<%= example_path %>"
  , "STRIP_FROM_PATH        =<%= strip_from_path %>"
  , "FILE_PATTERNS          = *.c *.h *.md"
  , "RECURSIVE              = YES"
  , "GENERATE_HTML          = YES"
  , "GENERATE_LATEX         = NO"
  , "# use_mdfile_as_mainpage = <%= use_mdfile_as_mainpage %>" ]

/-- The template that comes with the program: it refers to each of the fields. -/
def builtIn : String :=
  String.join (builtInLines.map (· ++ "\n"))

end Doxyfile.Template
