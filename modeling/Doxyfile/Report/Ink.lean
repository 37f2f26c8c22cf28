/-!
# Colours of a drawing

Terminals colour what stands between two escape sequences: one that names the colour and one that
ends it. A drawing has red for what it points at and shades of grey for what surrounds it.
-/

namespace Doxyfile

/-- A colour to draw in. -/
inductive Ink where
  | red
  /-- A grey of the palette of 256 colours. -/
  | grey (index : Nat)
deriving DecidableEq, Repr

namespace Ink

/-- The frame of a report and the numbers of its lines. -/
def frame : Ink := .grey 246

/-- The edge beside what is drawn under a line. -/
def edge : Ink := .grey 240

/-- The source where nothing is pointed at. -/
def source : Ink := .grey 249

/-- The code of the colour in an escape sequence. -/
def code : Ink → String
  | .red => "31"
  | .grey index => "38;5;" ++ toString index

/-- The text in the colour. -/
def paint (ink : Ink) (text : String) : String :=
  "\x1b[" ++ ink.code ++ "m" ++ text ++ "\x1b[0m"

/-- The text with each of its characters coloured by itself. -/
def paintEach (ink : Ink) (text : List Char) : String :=
  String.join (text.map fun c => ink.paint c.toString)

end Ink

end Doxyfile
