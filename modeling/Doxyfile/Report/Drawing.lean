import Doxyfile.Report.Basic
import Doxyfile.Report.Ink
import Doxyfile.Report.Line

/-!
# Drawing a report

A report is drawn as a title, a header that says where in which file, the lines of the source that
its span covers, and the label on an arrow from the span. The ends of the span are taken as offsets
in *characters*: in a source of ASCII characters that is where the span lies, in another one the
drawing is moved.

* When the span ends on the line where it starts, that line is drawn with the span underlined and
  the label below its middle (`Report.underlined`).
* Otherwise the first and the last of its lines are drawn, joined by a bracket that leads to the
  label (`Report.bracketed`).
* When an end of the span lies outside of the source, only the title is drawn.
-/

namespace Doxyfile

namespace Report

/-- So many spaces. -/
def spaces (count : Nat) : String :=
  String.ofList (List.replicate count ' ')

/-- A character and what fills the other columns it takes, in red; nothing when it takes none. -/
def stroke (first filler : Char) (columns : Nat) : String :=
  match columns with
  | 0 => ""
  | more + 1 => Ink.red.paintEach (first :: List.replicate more filler)

/-! ## Where it is -/

/-- The lines on which the span starts and ends. An empty span ends where it starts. -/
def extent? (report : Report) (source : List Char) : Option (Line × Line) := do
  let first ← Line.at? source report.span.start
  if report.span.start = report.span.stop then pure (first, first)
  else pure (first, ← Line.at? source (report.span.stop - 1))

/-- Whether the span covers the character at an offset. -/
def covers (report : Report) (offset : Nat) : Bool :=
  report.span.start ≤ offset && offset < report.span.stop

/-- Line and column of an offset on a line, as a reader counts. -/
def location (line : Line) (offset : Nat) : String :=
  toString line.number ++ ":" ++ toString (offset - line.start + 1)

/-! ## Margins -/

/-- How many digits the number of a line has. -/
def digits (line : Line) : Nat :=
  (toString line.number).length

/-- The margin of a line of the source: its number, in `width` columns. -/
def numbered (width : Nat) (line : Line) : String :=
  let number := toString line.number
  " " ++ Ink.frame.paint (spaces (width - number.length) ++ number ++ " │") ++ " "

/-- The margin beside a drawing. -/
def blankMargin (width : Nat) : String :=
  " " ++ Ink.edge.paint (spaces (width + 1) ++ "│") ++ " "

/-- The margin where lines are left out. -/
def gapMargin (width : Nat) : String :=
  " " ++ Ink.edge.paint (spaces (width + 1) ++ "┆") ++ " "

/-- The header: the file, and the place where the span starts. -/
def header (report : Report) (width : Nat) (filename : String) (first : Line) : String :=
  spaces (width + 2) ++ Ink.frame.paintEach ['╭', '─', '['] ++
    filename ++ ":" ++ location first report.span.start ++ Ink.frame.paint "]" ++ "\n" ++
    spaces (width + 2) ++ Ink.frame.paint "│" ++ "\n"

/-- The line that closes a report. -/
def footer (width : Nat) : String :=
  Ink.frame.paint (String.ofList (List.replicate (width + 2) '─') ++ "╯") ++ "\n"

/-! ## Lines of the source -/

/-- Draws the characters of a line, the first of them being the one at `column`. -/
def drawFrom (report : Report) (line : Line) (column : Nat) : List Char → String
  | [] => ""
  | c :: cs =>
    let ink := if report.covers (line.start + column) then Ink.red else Ink.source
    let shown := if Text.isBlank c then List.replicate (Line.columnsAt column c) ' ' else [c]
    ink.paintEach shown ++ drawFrom report line (column + 1) cs

/-- Draws a line of the source, what the span covers in red. -/
def drawLine (report : Report) (line : Line) : String :=
  report.drawFrom line 0 line.drawn ++ "\n"

/-! ## A span on one line -/

/-- The line under the source: the span underlined, and a stem at the column `middle`. -/
def underline (report : Report) (line : Line) (middle column : Nat) : List Nat → String
  | [] => ""
  | columns :: others =>
    let covered := report.covers (line.start + column)
    let mark :=
      if column = middle then
        if covered then stroke '┬' '─' columns else stroke '│' ' ' columns
      else if covered then stroke '─' '─' columns
      else spaces columns
    mark ++ underline report line middle (column + 1) others

/-- The line below that: an arrow that leads from the stem to the label. -/
def arrow (middle column : Nat) : List Nat → String
  | [] => ""
  | columns :: others =>
    let mark :=
      if column < middle then spaces columns
      else if column = middle then stroke '╰' '─' columns
      else stroke '─' '─' columns
    mark ++ arrow middle (column + 1) others

/-- A span on one line, underlined, with the label below its middle. A span that ends past the end
of the source's last line has neither line nor label drawn. -/
def underlined (report : Report) (width : Nat) (line : Line) : String :=
  if line.stop < report.span.stop then blankMargin width ++ "\n"
  else
    let middle := (report.span.start + report.span.stop) / 2 - line.start
    let columns := line.columns (report.span.stop - line.start + 2)
    numbered width line ++ report.drawLine line ++
      blankMargin width ++ report.underline line middle 0 columns ++ "\n" ++
      blankMargin width ++ arrow middle 0 columns ++ " " ++ report.label ++ "\n"

/-! ## A span over several lines -/

/-- The arm of the bracket that points at a line. -/
def arm (corner : Char) : String :=
  Ink.red.paintEach [corner, '─', '▶', ' ']

/-- The mark for lines that are left out. -/
def gap (width : Nat) : String :=
  gapMargin width ++ Ink.red.paint "┆" ++ spaces 3 ++ "\n"

/-- The last line of a span, and the bracket led on from it to the label. -/
def closing (report : Report) (width : Nat) (last : Line) : String :=
  let reach := 3 + (last.columns (last.content.length + 2)).foldl (· + ·) 0
  numbered width last ++ arm '├' ++ report.drawLine last ++
    blankMargin width ++ Ink.red.paint "│" ++ spaces reach ++ "\n" ++
    blankMargin width ++ Ink.red.paint "╰" ++
    Ink.red.paintEach (List.replicate reach '─') ++ " " ++ report.label ++ "\n"

/-- A span over several lines: its first and last line in a bracket, what lies between left out. A
last line that the span goes past is left out as well. -/
def bracketed (report : Report) (width : Nat) (first last : Line) : String :=
  let reached := report.span.stop ≤ last.stop
  numbered width first ++ arm '╭' ++ report.drawLine first ++
    (if first.index + 1 < last.index || !reached then gap width else "") ++
    (if reached then report.closing width last else "")

/-! ## The whole report -/

/-- The part of a report below its title. -/
def body (report : Report) (filename : String) (first last : Line) : String :=
  let width := digits last
  report.header width filename first ++
    (if first.index = last.index then report.underlined width first
     else report.bracketed width first last) ++
    footer width

/-- Draws a report about a source that stands in a file. -/
def draw (report : Report) (filename : String) (source : List Char) : String :=
  Ink.red.paint "Error:" ++ " " ++ report.title ++ "\n" ++
    match report.extent? source with
    | none => ""
    | some (first, last) => report.body filename first last

end Report

/-- The reports of an error, drawn one after the other with an empty line between. -/
def RenderError.format (error : RenderError) (source filename : String) : String :=
  String.intercalate "\n" (error.reports.map (·.draw filename source.toList))

end Doxyfile
