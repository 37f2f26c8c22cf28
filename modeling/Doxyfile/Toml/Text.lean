import Doxyfile.Toml.Reader

/-!
# Strings of a TOML document

There are four ways to write a string: on one line or on several, and with escapes (`"`) or without
(`'`). A reader here starts past the opening quotes and ends past the closing ones.

On several lines every line break is read as `\n`, one directly after the opening quotes is dropped,
and a backslash at the end of a line takes the break and all blanks after it away. Up to two quotes
may stand directly before the closing three.
-/

namespace Doxyfile.Toml

/-! ## Characters and escapes -/

/-- The characters that stand for themselves in a string with escapes. -/
def isBasicChar (c : Char) : Bool :=
  isCommentChar c && c != '"' && c != '\\'

/-- The characters that stand for themselves in a string without escapes. -/
def isLiteralChar (c : Char) : Bool :=
  isCommentChar c && c != '\''

/-- The value of a hexadecimal digit. -/
def hexDigit? (c : Char) : Option Nat :=
  if c.isDigit then some (c.toNat - '0'.toNat)
  else if 'a' ≤ c ∧ c ≤ 'f' then some (c.toNat - 'a'.toNat + 10)
  else if 'A' ≤ c ∧ c ≤ 'F' then some (c.toNat - 'A'.toNat + 10)
  else none

/-- The character of a code point in hexadecimal; surrogates and what lies past Unicode are none. -/
def codePoint? (digits : List Char) : Option Char := do
  let values ← digits.mapM hexDigit?
  let code := values.foldl (fun sum digit => 16 * sum + digit) 0
  if code.isValidChar then some (Char.ofNat code) else none

/-- The character of an escape of one letter. -/
def letterEscape? : Char → Option Char
  | 'b' => some '\x08'
  | 't' => some '\t'
  | 'n' => some '\n'
  | 'f' => some '\x0c'
  | 'r' => some '\r'
  | '"' => some '"'
  | '\\' => some '\\'
  | _ => none

/-- Puts a character in front of the text that is read after it. -/
def withChar (c : Char) : Option (List Char × List Char) → Option (List Char × List Char) :=
  Option.map fun (text, rest) => (c :: text, rest)

/-! ## On one line -/

/-- A string with escapes on one line. -/
def basicText : Reader (List Char)
  | [] => none
  | '"' :: cs => some ([], cs)
  | '\\' :: 'u' :: a :: b :: c :: d :: cs => do
    withChar (← codePoint? [a, b, c, d]) (basicText cs)
  | '\\' :: 'U' :: a :: b :: c :: d :: e :: f :: g :: h :: cs => do
    withChar (← codePoint? [a, b, c, d, e, f, g, h]) (basicText cs)
  | '\\' :: c :: cs => do withChar (← letterEscape? c) (basicText cs)
  | c :: cs => if isBasicChar c then withChar c (basicText cs) else none

/-- A string without escapes on one line. -/
def literalText : Reader (List Char)
  | [] => none
  | '\'' :: cs => some ([], cs)
  | c :: cs => if isLiteralChar c then withChar c (literalText cs) else none

/-! ## On several lines -/

/-- Where a string on several lines stands. -/
inductive Place where
  /-- Among its characters. -/
  | content
  /-- After a backslash and blanks that a line break has to follow. -/
  | beforeBreak
  /-- After such a line break: blanks and breaks are dropped. -/
  | afterBreak
deriving DecidableEq, Repr

/-- A string with escapes on several lines, from some place in it on. -/
def basicLines : Place → Reader (List Char)
  | _, [] => none
  | .beforeBreak, '\n' :: cs => basicLines .afterBreak cs
  | .beforeBreak, '\r' :: '\n' :: cs => basicLines .afterBreak cs
  | .beforeBreak, c :: cs => if isSpace c then basicLines .beforeBreak cs else none
  | .afterBreak, ' ' :: cs => basicLines .afterBreak cs
  | .afterBreak, '\t' :: cs => basicLines .afterBreak cs
  | .afterBreak, '\n' :: cs => basicLines .afterBreak cs
  | .afterBreak, '\r' :: '\n' :: cs => basicLines .afterBreak cs
  | _, '"' :: '"' :: '"' :: '"' :: '"' :: cs => some (['"', '"'], cs)
  | _, '"' :: '"' :: '"' :: '"' :: cs => some (['"'], cs)
  | _, '"' :: '"' :: '"' :: cs => some ([], cs)
  | _, '"' :: cs => withChar '"' (basicLines .content cs)
  | _, '\n' :: cs => withChar '\n' (basicLines .content cs)
  | _, '\r' :: '\n' :: cs => withChar '\n' (basicLines .content cs)
  | _, '\\' :: 'u' :: a :: b :: c :: d :: cs => do
    withChar (← codePoint? [a, b, c, d]) (basicLines .content cs)
  | _, '\\' :: 'U' :: a :: b :: c :: d :: e :: f :: g :: h :: cs => do
    withChar (← codePoint? [a, b, c, d, e, f, g, h]) (basicLines .content cs)
  | _, '\\' :: '\n' :: cs => basicLines .afterBreak cs
  | _, '\\' :: '\r' :: '\n' :: cs => basicLines .afterBreak cs
  | _, '\\' :: c :: cs =>
    if isSpace c then basicLines .beforeBreak cs
    else do withChar (← letterEscape? c) (basicLines .content cs)
  | _, c :: cs => if isBasicChar c then withChar c (basicLines .content cs) else none

/-- A string without escapes on several lines. -/
def literalLines : Reader (List Char)
  | [] => none
  | '\'' :: '\'' :: '\'' :: '\'' :: '\'' :: cs => some (['\'', '\''], cs)
  | '\'' :: '\'' :: '\'' :: '\'' :: cs => some (['\''], cs)
  | '\'' :: '\'' :: '\'' :: cs => some ([], cs)
  | '\n' :: cs => withChar '\n' (literalLines cs)
  | '\r' :: '\n' :: cs => withChar '\n' (literalLines cs)
  | c :: cs => if isCommentChar c then withChar c (literalLines cs) else none

/-- A string in any of the four forms, opening quotes included. -/
def string (cs : List Char) : Option (String × List Char) :=
  let afterBreak (cs : List Char) := (lineBreak? cs).getD cs
  let text :=
    match cs with
    | '"' :: '"' :: '"' :: cs => basicLines .content (afterBreak cs)
    | '"' :: cs => basicText cs
    | '\'' :: '\'' :: '\'' :: cs => literalLines (afterBreak cs)
    | '\'' :: cs => literalText cs
    | _ => none
  text.map fun (text, rest) => (String.ofList text, rest)

end Doxyfile.Toml
