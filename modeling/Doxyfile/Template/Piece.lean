import Doxyfile.Template.Token

/-!
# Pieces: literals and whole tags

The tokens of a template are read as pieces. Outside of a tag an opener starts one, and every
other token is literal: a closer stands for itself there, and `<%%` for `<%`. Inside of a tag
every token up to the next closer belongs to the tag's body, openers included.

A tag must be closed; when one is not, there are no pieces at all (`Piece.ofLexemes`). Whether a
closed tag makes sense is not asked here.
-/

namespace Doxyfile.Template

/-- A tag with its body. `span` runs from its opener to the end of its closer. -/
structure Tag where
  kind : TagKind
  /-- The characters between opener and closer. -/
  body : List Char
  span : Span
  /-- Whether the closer takes a line break that follows it. -/
  trims : Bool
deriving DecidableEq, Repr

/-- A part of a template before its tags are judged. -/
inductive Piece where
  | literal (content : List Char)
  | tag (tag : Tag)
deriving DecidableEq, Repr

/-- What a token stands for outside of a tag, where it opens none. -/
def Token.literal : Token → List Char
  | .escape => ['<', '%']
  | token => token.source

/-- The rest of a tag whose opener has been read, and the pieces that follow it. -/
structure Remainder where
  body : List Char
  stop : Nat
  trims : Bool
  pieces : List Piece
deriving DecidableEq, Repr

mutual

/-- The pieces of the tokens, none when a tag is not closed. -/
def Piece.ofLexemes : List Lexeme → Option (List Piece)
  | [] => some []
  | ⟨.opener kind, span⟩ :: lexemes =>
    (Remainder.ofLexemes lexemes).map fun rest =>
      .tag ⟨kind, rest.body, ⟨span.start, rest.stop⟩, rest.trims⟩ :: rest.pieces
  | ⟨token, _⟩ :: lexemes => (Piece.ofLexemes lexemes).map (.literal token.literal :: ·)

/-- The same from inside of a tag: its body runs to the first closer. -/
def Remainder.ofLexemes : List Lexeme → Option Remainder
  | [] => none
  | ⟨.closer trims, span⟩ :: lexemes =>
    (Piece.ofLexemes lexemes).map fun pieces => ⟨[], span.stop, trims, pieces⟩
  | ⟨token, _⟩ :: lexemes =>
    (Remainder.ofLexemes lexemes).map fun rest => { rest with body := token.source ++ rest.body }

end

/-- The tag in a piece, if it is one. -/
def Piece.tag? : Piece → Option Tag
  | .tag found => some found
  | .literal _ => none

end Doxyfile.Template
