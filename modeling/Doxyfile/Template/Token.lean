import Doxyfile.Text.Span

/-!
# Tokens of a template

A template is cut into tokens before tags are looked for. Only `<`, `%` and `-` can begin
something other than text, so a text token is a longest run of the other characters; at each of
the three the longest token wins, and a delimiter that begins nothing longer stands alone.

`Token.scan` cuts, `Token.source` writes back what a token was cut from, and `Lexeme.place` gives
the tokens their places. No character is dropped: that is `scan_source`.

Whether a delimiter opens or closes a tag *here* is not decided by the scan: a closer outside of a
tag and an opener inside of one are tokens all the same.
-/

namespace Doxyfile.Template

/-- What a tag is for: it writes a field, holds a comment, or asks for code to be run. -/
inductive TagKind where
  | output
  | comment
  | code
deriving DecidableEq, Repr

/-- A character that can begin a delimiter. -/
inductive Delimiter where
  | less
  | percent
  | hyphen
deriving DecidableEq, Repr

/-- The smallest parts of a template. -/
inductive Token where
  /-- The start of a tag, `<%=`, `<%#` or `<%`. -/
  | opener (kind : TagKind)
  /-- The escape `<%%`, which stands for the two characters `<%`. -/
  | escape
  /-- The end of a tag, `%>`, or `-%>`, which also takes a line break with it. -/
  | closer (trims : Bool)
  /-- A delimiter character that belongs to nothing longer. -/
  | lone (delimiter : Delimiter)
  /-- A run of characters that are no delimiters. -/
  | text (run : List Char)
deriving DecidableEq, Repr

/-- The characters that open a tag of this kind. -/
def TagKind.source : TagKind → List Char
  | .output => ['<', '%', '=']
  | .comment => ['<', '%', '#']
  | .code => ['<', '%']

/-- The delimiter as a character. -/
def Delimiter.char : Delimiter → Char
  | .less => '<'
  | .percent => '%'
  | .hyphen => '-'

/-- The characters the token was cut from. -/
def Token.source : Token → List Char
  | .opener kind => kind.source
  | .escape => ['<', '%', '%']
  | .closer true => ['-', '%', '>']
  | .closer false => ['%', '>']
  | .lone delimiter => [delimiter.char]
  | .text run => run

/-- Puts a character that is no delimiter in front of tokens, joining it to a text run. -/
def Token.absorb (c : Char) : List Token → List Token
  | .text run :: tokens => .text (c :: run) :: tokens
  | tokens => .text [c] :: tokens

/-- Cuts a template into tokens, the longest at each place. -/
def Token.scan : List Char → List Token
  | [] => []
  | '<' :: '%' :: '=' :: cs => .opener .output :: scan cs
  | '<' :: '%' :: '#' :: cs => .opener .comment :: scan cs
  | '<' :: '%' :: '%' :: cs => .escape :: scan cs
  | '<' :: '%' :: cs => .opener .code :: scan cs
  | '<' :: cs => .lone .less :: scan cs
  | '-' :: '%' :: '>' :: cs => .closer true :: scan cs
  | '-' :: cs => .lone .hyphen :: scan cs
  | '%' :: '>' :: cs => .closer false :: scan cs
  | '%' :: cs => .lone .percent :: scan cs
  | c :: cs => Token.absorb c (scan cs)

/-! ## Places -/

/-- A token and where it stands. -/
structure Lexeme where
  token : Token
  span : Span
deriving DecidableEq, Repr

/-- Gives tokens their places, one after the other from byte `start` on. -/
def Lexeme.place (start : Nat) : List Token → List Lexeme
  | [] => []
  | token :: tokens =>
    let stop := start + Text.byteLength token.source
    ⟨token, ⟨start, stop⟩⟩ :: place stop tokens

/-- The tokens of a template, each with its place in it. -/
def lex (template : String) : List Lexeme :=
  Lexeme.place 0 (Token.scan template.toList)

/-! ## Nothing is lost -/

theorem Token.absorb_source (c : Char) (tokens : List Token) :
    (Token.absorb c tokens).flatMap Token.source = c :: tokens.flatMap Token.source := by
  unfold Token.absorb
  split <;> simp [Token.source]

/-- The sources of the tokens are the template. -/
theorem Token.scan_source (cs : List Char) : (Token.scan cs).flatMap Token.source = cs := by
  fun_induction Token.scan cs <;>
    simp_all [Token.source, TagKind.source, Delimiter.char, Token.absorb_source]

end Doxyfile.Template
