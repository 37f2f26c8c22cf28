import Doxyfile.Proofs.Template.Joining

/-!
# What parsing comes to, and how it changes with the text

A text is changed in some way that its tags survive. What is told of the new text is then what was
told of the old one, with texts rewritten and places moved: a `Rewrite` is the pair of the two, and
`Rewrite.outcome` carries the outcome of parsing over.

To compare two outcomes as a whole, `parseFrom` gives the outcome of characters from any byte on. It
is decided by two readings that are each easier to follow through a text: `faultsFrom`, the errors
of the tags, and `readFrom`, the segments (`parseFrom_map`). Both see a tag as its segment and then
what stands behind it, and neither sees where in a text the characters stand, but for the places
they tell.
-/

namespace Doxyfile.Template

/-! ## Rewriting outcomes -/

/-- **What a change to a text does to what is told of it**: the change to every text that is told,
and where the places of the old text are in the new one. -/
structure Rewrite where
  text : String → String
  place : Nat → Nat

namespace Rewrite

/-- A span between the new places of its ends. -/
def span (rewrite : Rewrite) (old : Span) : Span :=
  ⟨rewrite.place old.start, rewrite.place old.stop⟩

/-- The reference in the new text: it keeps its name. -/
def reference (rewrite : Rewrite) (old : Reference) : Reference :=
  ⟨old.name, rewrite.span old.span⟩

/-- The segment in the new text. -/
def segment (rewrite : Rewrite) : Segment → Segment
  | .text content => .text (rewrite.text content)
  | .field reference => .field (rewrite.reference reference)
  | .comment => .comment

/-- The error in the new text. -/
def error (rewrite : Rewrite) (old : SyntaxError) : SyntaxError :=
  ⟨rewrite.span old.span, rewrite.text old.message, old.expected⟩

/-- **The outcome of parsing, carried over to the new text.** -/
def outcome (rewrite : Rewrite) :
    Except (List SyntaxError) Template → Except (List SyntaxError) Template
  | .ok template => .ok ⟨template.segments.map rewrite.segment⟩
  | .error errors => .error (errors.map rewrite.error)

end Rewrite

/-! ## Faults -/

/-- **The errors of the tags** among the characters from byte `start` on; nothing when one of them
is left open. -/
def faultsFrom (start : Nat) (cs : List Char) : Option (List SyntaxError) :=
  (Piece.ofChars start cs).map (List.filterMap Piece.error?)

theorem faultsFrom_shift (start distance : Nat) (cs : List Char) :
    faultsFrom (start + distance) cs =
      (faultsFrom start cs).map (List.map (SyntaxError.shift distance)) := by
  unfold faultsFrom
  rw [Piece.ofChars_shift, Option.map_map, Option.map_map]
  congr 1
  funext pieces
  simp only [Function.comp_apply, List.filterMap_map, List.map_filterMap]
  exact congrArg (List.filterMap · pieces) (funext (Piece.error?_shift distance))

/-- **Characters without a fault** leave the faults to what stands behind them. -/
theorem faultsFrom_append {start : Nat} {front next : List Char}
    (h : faultsFrom start front = some []) (hnext : Separate next) :
    faultsFrom start (front ++ next) = faultsFrom (start + Text.byteLength front) next := by
  obtain ⟨pieces, hpieces, hnone⟩ := Option.map_eq_some_iff.mp h
  unfold faultsFrom
  rw [Piece.ofChars_append hpieces hnext, Option.map_map]
  congr 1
  funext others
  rw [Function.comp_apply, List.filterMap_append, hnone, List.nil_append]

theorem faultsFrom_literal {token : Token} {rest : List Char} (h : token.Fits rest)
    (hopener : ∀ kind, token ≠ .opener kind) (start : Nat) :
    faultsFrom start (token.source ++ rest) =
      faultsFrom (start + Text.byteLength token.source) rest := by
  unfold faultsFrom
  rw [Piece.ofChars_literal h hopener, Option.map_map]
  rfl

/-- **Plain characters have no part in the faults**, whatever stands behind them. -/
theorem faultsFrom_plain {run : List Char} (hrun : ∀ c ∈ run, isPlain c = true) (start : Nat)
    (rest : List Char) :
    faultsFrom start (run ++ rest) = faultsFrom (start + Text.byteLength run) rest := by
  have hblock : ∀ {front back : List Char}, (∀ c ∈ front, isPlain c = true) →
      (∀ c ∈ back.head?, isPlain c = false) → ∀ start,
        faultsFrom start (front ++ back) = faultsFrom (start + Text.byteLength front) back := by
    intro front back hfront hback start
    by_cases hne : front = []
    · subst hne
      rfl
    · have hfits : (Token.text front).Fits back := ⟨hne, hfront, hback⟩
      exact faultsFrom_literal hfits (fun _ => Token.noConfusion) start
  -- the run may go on into `rest`, and then it is one token with what it goes on with
  have hsplit := List.takeWhile_append_dropWhile (p := isPlain) (l := rest)
  have hmore : ∀ c ∈ rest.takeWhile isPlain, isPlain c = true :=
    List.all_eq_true.mp List.all_takeWhile
  have hboth : ∀ c ∈ run ++ rest.takeWhile isPlain, isPlain c = true := by
    intro c hc
    rcases List.mem_append.mp hc with hc | hc
    · exact hrun c hc
    · exact hmore c hc
  have hstop := isPlain_head?_dropWhile rest
  rw [← hsplit, ← List.append_assoc, hblock hboth hstop, hblock hmore hstop,
    Text.byteLength_append, Nat.add_assoc]

theorem Piece.error?_of_judge {tag : Tag} {segment : Segment} (h : tag.judge = .ok segment) :
    Piece.error? (.tag tag) = none := by
  simp only [Piece.error?, h]

/-! ## Tags -/

section

variable {kind : TagKind} {rest : List Char} {found : Ending} {start : Nat} {segment : Segment}
  {defect : Defect}

/-- **A tag without a fault** leaves the faults to what stands behind it. -/
theorem faultsFrom_tag (h : (Token.opener kind).Fits rest)
    (hfound : ending kind.source rest = some found)
    (hjudge : Tag.judge ⟨kind, found.body,
      ⟨start, found.stop (start + Text.byteLength kind.source)⟩, found.trims⟩ = .ok segment) :
    faultsFrom start (kind.source ++ rest) =
      faultsFrom (found.stop (start + Text.byteLength kind.source)) found.rest := by
  unfold faultsFrom
  rw [Piece.ofChars_tag h hfound, Option.map_map]
  congr 1
  funext pieces
  exact List.filterMap_cons_none (Piece.error?_of_judge hjudge)

theorem readFrom_tag (h : (Token.opener kind).Fits rest)
    (hfound : ending kind.source rest = some found)
    (hjudge : Tag.judge ⟨kind, found.body,
      ⟨start, found.stop (start + Text.byteLength kind.source)⟩, found.trims⟩ = .ok segment)
    (trims : Bool) :
    readFrom trims start (kind.source ++ rest) =
      (readFrom found.trims (found.stop (start + Text.byteLength kind.source)) found.rest).map
        (segment :: ·) := by
  unfold readFrom
  rw [Piece.ofChars_tag h hfound, Option.bind_map, Option.map_bind]
  exact Option.bind_congr fun pieces _ => Piece.segments?_tag_ok hjudge trims pieces

/-- **A tag found wanting is one fault**, in front of those behind it. -/
theorem faultsFrom_tag_error (h : (Token.opener kind).Fits rest)
    (hfound : ending kind.source rest = some found)
    (hjudge : Tag.judge ⟨kind, found.body,
      ⟨start, found.stop (start + Text.byteLength kind.source)⟩, found.trims⟩ = .error defect) :
    faultsFrom start (kind.source ++ rest) =
      (faultsFrom (found.stop (start + Text.byteLength kind.source)) found.rest).map
        (defect.at ⟨start, found.stop (start + Text.byteLength kind.source)⟩ :: ·) := by
  unfold faultsFrom
  rw [Piece.ofChars_tag h hfound, Option.map_map, Option.map_map]
  congr 1
  funext pieces
  refine List.filterMap_cons_some ?_
  simp only [Piece.error?, hjudge]

theorem readFrom_tag_error (h : (Token.opener kind).Fits rest)
    (hfound : ending kind.source rest = some found)
    (hjudge : Tag.judge ⟨kind, found.body,
      ⟨start, found.stop (start + Text.byteLength kind.source)⟩, found.trims⟩ = .error defect)
    (trims : Bool) : readFrom trims start (kind.source ++ rest) = none := by
  unfold readFrom
  rw [Piece.ofChars_tag h hfound, Option.bind_map, ← Option.bind_fun_none]
  exact Option.bind_congr fun pieces _ => Piece.segments?_tag_error hjudge trims pieces

/-- A tag that is never closed leaves nothing to tell of the others. -/
theorem faultsFrom_unclosed (h : (Token.opener kind).Fits rest)
    (hnone : ending kind.source rest = none) (start : Nat) :
    faultsFrom start (kind.source ++ rest) = none := by
  rw [faultsFrom, Piece.ofChars_unclosed h hnone, Option.map_none]

end

/-! ## Outcomes -/

/-- **What parsing comes to** for the characters from byte `start` on, behind a closer that trims or
not. A text that leaves a tag open has that one error, and else its faults come before what it is
read as. -/
def parseFrom (trims : Bool) (start : Nat) (cs : List Char) :
    Except (List SyntaxError) (List Segment) :=
  match faultsFrom start cs, readFrom trims start cs with
  | some [], some segments => .ok segments
  | some errors, _ => .error errors
  | none, _ =>
    let stop := start + Text.byteLength cs
    .error [Defect.unclosedTag.at ⟨stop, stop⟩]

theorem parse_eq_parseFrom (text : String) :
    parse text = (parseFrom false 0 text.toList).map Template.mk := by
  have hlex : Piece.ofChars 0 text.toList = Piece.ofLexemes (lex text) := rfl
  unfold parse parseFrom faultsFrom readFrom
  rw [hlex, Nat.zero_add]
  cases Piece.ofLexemes (lex text) with
  | none => rfl
  | some pieces =>
    simp only [Option.map_some, Option.bind_some, Piece.segments?]
    cases pieces.filterMap Piece.error? with
    | nil => rfl
    | cons error errors => rfl

/-- **Faults and segments make the outcome**: when both come from those of other characters, so does
the outcome. -/
theorem parseFrom_map {trims closes : Bool} {start next : Nat} {cs rest : List Char}
    {onSegments : List Segment → List Segment} {onError : SyntaxError → SyntaxError}
    (hfaults : faultsFrom start cs = (faultsFrom next rest).map (List.map onError))
    (hread : readFrom trims start cs = (readFrom closes next rest).map onSegments)
    (hstop : Defect.unclosedTag.at
        ⟨start + Text.byteLength cs, start + Text.byteLength cs⟩ =
      onError (Defect.unclosedTag.at
        ⟨next + Text.byteLength rest, next + Text.byteLength rest⟩)) :
    parseFrom trims start cs =
      ((parseFrom closes next rest).map onSegments).mapError (List.map onError) := by
  unfold parseFrom
  rw [hfaults, hread]
  cases faultsFrom next rest with
  | none => exact congrArg (fun error => Except.error [error]) hstop
  | some errors =>
    cases errors with
    | cons error errors => rfl
    | nil => cases readFrom closes next rest <;> rfl

/-- Characters that are read as segments have no fault. -/
theorem faultsFrom_of_readFrom {trims : Bool} {start : Nat} {cs : List Char}
    {segments : List Segment} (h : readFrom trims start cs = some segments) :
    faultsFrom start cs = some [] := by
  obtain ⟨pieces, hpieces, hsegments⟩ := Option.bind_eq_some_iff.mp h
  unfold Piece.segments? at hsegments
  split at hsegments
  next hnone => rw [faultsFrom, hpieces, Option.map_some, hnone]
  next => cases hsegments

/-- Characters that stand further on come to the same, with all places moved. -/
theorem parseFrom_shift (trims : Bool) (start distance : Nat) (cs : List Char) :
    parseFrom trims (start + distance) cs =
      ((parseFrom trims start cs).map (List.map (Segment.shift distance))).mapError
        (List.map (SyntaxError.shift distance)) := by
  refine parseFrom_map (faultsFrom_shift start distance cs) (readFrom_shift trims start distance cs)
    ?_
  simp only [SyntaxError.shift, Defect.at, Span.shift, Nat.add_right_comm _ distance]

end Doxyfile.Template
