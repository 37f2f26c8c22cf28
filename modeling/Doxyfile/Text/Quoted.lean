import Doxyfile.Text.DefaultIgnorable
import Doxyfile.Text.GraphemeExtend
import Doxyfile.Text.Unprintable

/-!
# Quoted text in messages

A message quotes a text so that every character of it can be seen: quotes, backslashes and the
common controls by an escape of one letter, other characters that cannot be seen by themselves by
their code point in hexadecimal. These are the characters that are not printed, that leave no mark,
or that are drawn over the one before them.
-/

namespace Doxyfile.Text

/-- The code point of a character as an escape. -/
def codeEscape (c : Char) : String :=
  "\\u\x7b" ++ String.ofList (Nat.toDigits 16 c.toNat) ++ "\x7d"

/-- Whether a character is drawn over the one before it. The halfwidth sound marks extend a grapheme
too, but have a place of their own. -/
def isDrawnOver (c : Char) : Bool :=
  graphemeExtend.contains c && c != '\uff9e' && c != '\uff9f'

/-- Whether a character can be seen by itself. -/
def isVisible (c : Char) : Bool :=
  !(isDrawnOver c || defaultIgnorable.contains c || unprintable.contains c)

/-- A character as it stands between quotes. -/
def quoteChar (c : Char) : String :=
  match c with
  | '\x00' => "\\0"
  | '\t' => "\\t"
  | '\n' => "\\n"
  | '\r' => "\\r"
  | '"' => "\\\""
  | '\\' => "\\\\"
  | c => if isVisible c then c.toString else codeEscape c

/-- A text between quotes. -/
def quoted (text : String) : String :=
  "\"" ++ String.join (text.toList.map quoteChar) ++ "\""

end Doxyfile.Text
