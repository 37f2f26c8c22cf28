/-!
# Readers

A reader takes a value off the head of a text and gives back the rest, or refuses the text. The
readers here are for what separates the parts of a TOML document: blanks, line breaks, comments.
-/

namespace Doxyfile.Toml

/-- Takes a value off the head of a text. -/
abbrev Reader (α : Type) := List Char → Option (α × List Char)

/-- Spaces and tabs separate parts on a line. -/
def isSpace (c : Char) : Bool :=
  c == ' ' || c == '\t'

/-- The characters of a comment: all but the controls, the tab being allowed. -/
def isCommentChar (c : Char) : Bool :=
  c == '\t' || (0x20 ≤ c.toNat && c.toNat != 0x7F)

/-- The text without the spaces and tabs it starts with. -/
def skipSpace (cs : List Char) : List Char :=
  cs.dropWhile isSpace

/-- The text past the line break it starts with. -/
def lineBreak? : List Char → Option (List Char)
  | '\n' :: cs => some cs
  | '\r' :: '\n' :: cs => some cs
  | _ => none

/-- The text past the end of a line: spaces, perhaps a comment, and a line break if more follows. -/
def lineEnd? (cs : List Char) : Option (List Char) :=
  let rest :=
    match skipSpace cs with
    | '#' :: cs => cs.dropWhile isCommentChar
    | cs => cs
  if rest.isEmpty then some [] else lineBreak? rest

/-- The text past spaces, line breaks and comments. `comment` says that it starts inside of one. -/
def skipFiller (comment : Bool) : List Char → List Char
  | [] => []
  | '\n' :: cs => skipFiller false cs
  | '\r' :: '\n' :: cs => skipFiller false cs
  | c :: cs =>
    if comment then if isCommentChar c then skipFiller true cs else c :: cs
    else if c = '#' then skipFiller true cs
    else if isSpace c then skipFiller false cs
    else c :: cs

end Doxyfile.Toml
