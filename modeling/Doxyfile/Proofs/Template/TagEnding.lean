import Doxyfile.Proofs.Template.Tokens
import Doxyfile.Template.Piece

/-!
# Where a tag ends, told from the characters

A tag runs from its opener to the first closer that the tokens show. This module says the same of
characters: a tag ends at the first `%>` that is not part of a `<%` or a `<%%` (`ending`), and a
hyphen right in front of it belongs to the closer (`Ending.trims`, `Ending.body`).

`Remainder.ofLexemes_place` is the equality of the two. It is proved token by token: no place inside
of a token that is no closer is one where a tag can end (`Inside.token`), and at a closer the cut
between tokens (`Cut`) makes it one. The last section turns the reading of pieces into equations
over characters (`Piece.ofChars`), so that later proofs speak of tokens only at their borders.
-/

namespace Doxyfile.Template

/-! ## The ending of a tag -/

/-- **A tag can end between `before` and `rest`**: `rest` starts with `%>`, and `before` ends
neither with `<` nor with `<%`. -/
def endsAt (before rest : List Char) : Bool :=
  ['%', '>'].isPrefixOf rest && !(['<'].isSuffixOf before) && !(['<', '%'].isSuffixOf before)

/-- What the characters behind an opener come to: those in front of the `%>` that ends the tag, and
those behind it. -/
structure Ending where
  inner : List Char
  rest : List Char
deriving DecidableEq, Repr

/-- **The ending of a tag**, at the first place from the start of `rest` on where a tag can end;
`before` is all that stands in front of `rest`. -/
def ending (before : List Char) : List Char → Option Ending
  | [] => none
  | c :: rest =>
    if endsAt before (c :: rest) then some ⟨[], rest.tail⟩
    else (ending (before ++ [c]) rest).map fun found => { found with inner := c :: found.inner }

/-- Whether a hyphen in front of the `%>` makes the closer one that trims. -/
def Ending.trims (found : Ending) : Bool :=
  found.inner.getLast? == some '-'

/-- The characters between opener and closer: a hyphen of the closer is not among them. -/
def Ending.body (found : Ending) : List Char :=
  if found.trims then found.inner.dropLast else found.inner

/-- The ending as it is seen from further ahead, with `front` in front of it. -/
def Ending.behind (front : List Char) (found : Ending) : Ending :=
  { found with inner := front ++ found.inner }

theorem endsAt_iff {before rest : List Char} :
    endsAt before rest = true ↔
      ['%', '>'] <+: rest ∧ ¬ ['<'] <:+ before ∧ ¬ ['<', '%'] <:+ before := by
  simp only [endsAt, Bool.and_eq_true, Bool.not_eq_true', List.isPrefixOf_iff_prefix, and_assoc,
    ← Bool.not_eq_true, List.isSuffixOf_iff_suffix]

/-- No tag ends where no `%` stands. -/
theorem endsAt_of_ne {c : Char} (h : c ≠ '%') (before rest : List Char) :
    endsAt before (c :: rest) = false := by
  rw [← Bool.not_eq_true, endsAt_iff]
  rintro ⟨⟨tail, heq⟩, -⟩
  exact h (List.cons.inj heq).1.symm

/-- No tag ends at a `%` that no `>` follows. -/
theorem endsAt_of_head? {rest : List Char} (h : rest.head? ≠ some '>') (before : List Char) :
    endsAt before ('%' :: rest) = false := by
  rw [← Bool.not_eq_true, endsAt_iff]
  rintro ⟨⟨tail, heq⟩, -⟩
  obtain rfl := (List.cons.inj heq).2
  exact h rfl

/-- No tag ends behind a `<`. -/
theorem endsAt_behind_less (before rest : List Char) : endsAt (before ++ ['<']) rest = false := by
  rw [← Bool.not_eq_true, endsAt_iff]
  rintro ⟨-, hless, -⟩
  exact hless (List.suffix_append before ['<'])

/-- No tag ends behind a `<%`. -/
theorem endsAt_behind_open (before rest : List Char) :
    endsAt (before ++ ['<', '%']) rest = false := by
  rw [← Bool.not_eq_true, endsAt_iff]
  rintro ⟨-, -, hopen⟩
  exact hopen (List.suffix_append before ['<', '%'])

theorem ending_here {before rest : List Char} (h : endsAt before ('%' :: '>' :: rest) = true) :
    ending before ('%' :: '>' :: rest) = some ⟨[], rest⟩ := by
  rw [ending, if_pos h, List.tail_cons]

/-- **The characters `front` are inside of the tag**: no tag ends before `rest`. -/
def Inside (before front rest : List Char) : Prop :=
  ending before (front ++ rest) = (ending (before ++ front) rest).map (Ending.behind front)

theorem Inside.nil (before rest : List Char) : Inside before [] rest := by
  show ending before rest = (ending (before ++ []) rest).map (Ending.behind [])
  rw [List.append_nil]
  exact (congrFun Option.map_id (ending before rest)).symm

theorem Inside.single {c : Char} {before rest : List Char}
    (h : endsAt before (c :: rest) = false) : Inside before [c] rest := by
  show ending before (c :: rest) = _
  rw [ending, if_neg (by rw [h]; exact Bool.false_ne_true)]
  rfl

/-- Characters inside of the tag, and behind them more that are. -/
theorem Inside.append {before front rest : List Char} (next : List Char)
    (hfront : Inside before front (next ++ rest)) (hnext : Inside (before ++ front) next rest) :
    Inside before (front ++ next) rest := by
  show ending before (front ++ next ++ rest) = _
  rw [List.append_assoc, hfront, hnext, Option.map_map, ← List.append_assoc]
  congr 1
  funext found
  simp only [Function.comp_apply, Ending.behind, List.append_assoc]

/-- **Characters without a `%` are inside of the tag.** -/
theorem Inside.of_no_percent {front : List Char} (h : ∀ c ∈ front, c ≠ '%')
    (before rest : List Char) : Inside before front rest := by
  induction front generalizing before with
  | nil => exact Inside.nil before rest
  | cons c cs ih =>
    have hc := Inside.single (endsAt_of_ne (h c List.mem_cons_self) before (cs ++ rest))
    exact hc.append cs (ih (fun x hx => h x (List.mem_cons_of_mem c hx)) _)

/-- What an ending is made of. -/
theorem ending_eq_append {before rest : List Char} {found : Ending}
    (h : ending before rest = some found) : rest = found.inner ++ '%' :: '>' :: found.rest := by
  fun_induction ending before rest generalizing found with
  | case1 => cases h
  | case2 before c rest hends =>
    cases h
    obtain ⟨⟨tail, heq⟩, -⟩ := endsAt_iff.mp hends
    obtain ⟨rfl, rfl⟩ := List.cons.inj heq
    rfl
  | case3 before c rest hends ih =>
    obtain ⟨next, hnext, rfl⟩ := Option.map_eq_some_iff.mp h
    rw [ih hnext]
    rfl

theorem ending_length {before rest : List Char} {found : Ending}
    (h : ending before rest = some found) : found.rest.length < rest.length := by
  rw [ending_eq_append h, List.length_append, List.length_cons, List.length_cons]
  omega

/-- **Characters that hold no `%>` are inside of the tag**, in front of a `%`. -/
theorem Inside.of_no_closer {front : List Char} (h : ¬ ['%', '>'] <:+: front)
    (before rest : List Char) : Inside before front ('%' :: rest) := by
  induction front generalizing before with
  | nil => exact Inside.nil before _
  | cons c cs ih =>
    have hc : endsAt before (c :: (cs ++ '%' :: rest)) = false := by
      by_cases hpercent : c = '%'
      · subst hpercent
        refine endsAt_of_head? (fun hhead => h ?_) before
        cases cs with
        | nil => exact absurd (Option.some.inj hhead) (by decide)
        | cons d ds =>
          obtain rfl : d = '>' := Option.some.inj hhead
          exact (List.prefix_append ['%', '>'] ds).isInfix
      · exact endsAt_of_ne hpercent before _
    exact (Inside.single hc).append cs (ih (fun hin => h (List.infix_cons hin)) _)

/-! ## Tokens inside of a tag -/

/-- **A token that is no closer is inside of the tag**, wherever it stands. -/
theorem Inside.token {token : Token} {rest : List Char} (h : token.Fits rest)
    (hcloser : ∀ trims, token ≠ .closer trims) (before : List Char) :
    Inside before token.source rest := by
  have less (before rest : List Char) : Inside before ['<'] rest :=
    Inside.single (endsAt_of_ne (by decide) before rest)
  -- the `%` of a `<%` follows a `<`, and what follows it is no longer a `%>` at that place
  have open_ (before rest : List Char) : Inside before ['<', '%'] rest :=
    (less before _).append ['%'] (Inside.single (endsAt_behind_less before _))
  cases token with
  | opener kind =>
    cases kind with
    | output =>
      exact (open_ before _).append ['='] (Inside.single (endsAt_of_ne (by decide) _ _))
    | comment =>
      exact (open_ before _).append ['#'] (Inside.single (endsAt_of_ne (by decide) _ _))
    | code => exact open_ before rest
  | escape =>
    exact (open_ before _).append ['%'] (Inside.single (endsAt_behind_open before _))
  | closer trims => exact absurd rfl (hcloser trims)
  | lone delimiter =>
    cases delimiter with
    | less => exact less before rest
    | percent => exact Inside.single (endsAt_of_head? h before)
    | hyphen => exact Inside.single (endsAt_of_ne (by decide) before rest)
  | text run =>
    refine Inside.of_no_percent (fun c hc => ?_) before rest
    have hplain := h.2.1 c hc
    simp only [isPlain, Bool.and_eq_true, bne_iff_ne] at hplain
    exact hplain.1.2

/-- A token that ends with a hyphen does not stand in front of a `%>`. -/
theorem Token.Fits.not_prefix_of_hyphen {token : Token} {rest : List Char} (h : token.Fits rest)
    (hyphen : ['-'] <:+ token.source) : ¬ ['%', '>'] <+: rest := by
  rw [List.singleton_suffix_iff_getLast?_eq_some] at hyphen
  cases token with
  | opener kind => cases kind <;> exact absurd hyphen (by decide)
  | escape => exact absurd hyphen (by decide)
  | closer trims => cases trims <;> exact absurd hyphen (by decide)
  | lone delimiter =>
    cases delimiter with
    | less => exact absurd hyphen (by decide)
    | percent => exact absurd hyphen (by decide)
    | hyphen => exact h
  | text run =>
    have hplain := h.2.1 '-' (List.mem_of_getLast? hyphen)
    exact absurd hplain (by decide)

/-- The hyphen of a closer is none of the characters further ahead. -/
theorem Ending.trims_behind {front : List Char} {found : Ending}
    (h : found.inner ≠ [] ∨ ¬ ['-'] <:+ front) : (found.behind front).trims = found.trims := by
  show ((front ++ found.inner).getLast? == some '-') = (found.inner.getLast? == some '-')
  rw [List.getLast?_append]
  by_cases hinner : found.inner = []
  · have hfront := h.resolve_left (fun hne => hne hinner)
    rw [List.singleton_suffix_iff_getLast?_eq_some] at hfront
    rw [hinner, List.getLast?_nil, Option.none_or]
    simpa using hfront
  · rw [List.getLast?_eq_some_getLast hinner, Option.some_or]

theorem Ending.body_behind {front : List Char} {found : Ending}
    (h : found.inner ≠ [] ∨ ¬ ['-'] <:+ front) :
    (found.behind front).body = front ++ found.body := by
  unfold Ending.body
  rw [Ending.trims_behind h]
  split
  next htrims =>
    have hne : found.inner ≠ [] := by
      rintro hnil
      simp [Ending.trims, hnil] at htrims
    exact List.dropLast_append_of_ne_nil hne
  next => rfl

/-! ## Pieces of characters -/

/-- The pieces of characters that stand from byte `start` on. -/
def Piece.ofChars (start : Nat) (cs : List Char) : Option (List Piece) :=
  Piece.ofLexemes (Lexeme.place start (Token.scan cs))

/-- The byte behind the `%>` of an ending, when the characters it was looked for in stand from byte
`start` on. -/
def Ending.stop (start : Nat) (found : Ending) : Nat :=
  start + Text.byteLength (found.inner ++ ['%', '>'])

/-- What an ending makes of the pieces behind it, inside of a tag. -/
def Ending.remainder (start : Nat) (found : Ending) : Option Remainder :=
  (Piece.ofChars (found.stop start) found.rest).map fun pieces =>
    ⟨found.body, found.stop start, found.trims, pieces⟩

/-- The remainder in front of an ending, put further ahead. -/
theorem Ending.remainder_behind {front : List Char} {found : Ending} (start : Nat)
    (h : found.inner ≠ [] ∨ ¬ ['-'] <:+ front) :
    (found.behind front).remainder start =
      (found.remainder (start + Text.byteLength front)).map fun rest =>
        { rest with body := front ++ rest.body } := by
  have hstop : (found.behind front).stop start = found.stop (start + Text.byteLength front) := by
    simp only [Ending.stop, Ending.behind, List.append_assoc, Text.byteLength_append, Nat.add_assoc]
  unfold Ending.remainder
  rw [hstop, Ending.trims_behind h, Ending.body_behind h, Option.map_map]
  rfl

/-- **The tokens and the characters agree on where a tag ends**: behind a cut between tokens, the
first closer among them is the first place where a tag can end. -/
theorem Remainder.ofLexemes_place {before rest : List Char} (hcut : Cut before rest) (start : Nat) :
    Remainder.ofLexemes (Lexeme.place start (Token.scan rest)) =
      (ending before rest).bind (Ending.remainder start) := by
  induction rest using Token.chain_induction generalizing before start with
  | nil => rfl
  | token token rest hfits ih =>
    rw [Token.scan_source_append hfits]
    by_cases hcloser : ∃ trims, token = .closer trims
    · obtain ⟨trims, rfl⟩ := hcloser
      cases trims with
      | false =>
        have hends : endsAt before ('%' :: '>' :: rest) = true :=
          endsAt_iff.mpr ⟨⟨rest, rfl⟩, hcut ⟨'>' :: rest, rfl⟩⟩
        show _ = (ending before ('%' :: '>' :: rest)).bind (Ending.remainder start)
        rw [ending_here hends]
        rfl
      | true =>
        have hends : endsAt (before ++ ['-']) ('%' :: '>' :: rest) = true :=
          endsAt_iff.mpr ⟨⟨rest, rfl⟩,
            Cut.behind [] (by decide) (by decide) before _ ⟨'>' :: rest, rfl⟩⟩
        have hinside : Inside before ['-'] ('%' :: '>' :: rest) :=
          Inside.single (endsAt_of_ne (by decide) _ _)
        show _ = (ending before (['-'] ++ '%' :: '>' :: rest)).bind (Ending.remainder start)
        rw [hinside, ending_here hends]
        rfl
    · have hother : ∀ trims, token ≠ .closer trims := fun trims h => hcloser ⟨trims, h⟩
      have hstep : Remainder.ofLexemes (Lexeme.place start (token :: Token.scan rest)) =
          (Remainder.ofLexemes
            (Lexeme.place (start + Text.byteLength token.source) (Token.scan rest))).map
              fun rest => { rest with body := token.source ++ rest.body } := by
        cases token with
        | closer trims => exact absurd rfl (hother trims)
        | _ => rfl
      rw [hstep, ih (hcut.step hfits), Inside.token hfits hother before, Option.bind_map,
        Option.map_bind]
      refine Option.bind_congr fun found hfound => ?_
      refine (Ending.remainder_behind start ?_).symm
      -- a closer right behind a hyphen would have been scanned together with it
      by_cases hinner : found.inner = []
      · refine .inr fun hhyphen => hfits.not_prefix_of_hyphen hhyphen ?_
        rw [ending_eq_append hfound, hinner]
        exact ⟨found.rest, rfl⟩
      · exact .inl hinner

/-- **A token that opens no tag is a literal.** -/
theorem Piece.ofChars_literal {token : Token} {rest : List Char} (h : token.Fits rest)
    (hopener : ∀ kind, token ≠ .opener kind) (start : Nat) :
    Piece.ofChars start (token.source ++ rest) =
      (Piece.ofChars (start + Text.byteLength token.source) rest).map
        (.literal token.literal :: ·) := by
  unfold Piece.ofChars
  rw [Token.scan_source_append h]
  cases token with
  | opener kind => exact absurd rfl (hopener kind)
  | _ => rfl

/-- **An opener makes a tag of the characters up to the ending**, and none of any when there is no
ending. `before` is all that stands in front of the opener. -/
theorem Piece.ofChars_opener {kind : TagKind} {rest : List Char} (h : (Token.opener kind).Fits rest)
    (before : List Char) (start : Nat) :
    Piece.ofChars start (kind.source ++ rest) =
      (ending (before ++ kind.source) rest).bind fun found =>
        let stop := found.stop (start + Text.byteLength kind.source)
        (Piece.ofChars stop found.rest).map
          (.tag ⟨kind, found.body, ⟨start, stop⟩, found.trims⟩ :: ·) := by
  have hscan : Token.scan (kind.source ++ rest) = .opener kind :: Token.scan rest :=
    Token.scan_source_append h
  have hrest := Remainder.ofLexemes_place (Cut.opener h before)
    (start + Text.byteLength kind.source)
  unfold Piece.ofChars
  rw [hscan]
  show (Remainder.ofLexemes (Lexeme.place (start + Text.byteLength kind.source)
    (Token.scan rest))).map _ = _
  rw [hrest, Option.map_bind]
  refine Option.bind_congr fun found _ => ?_
  show ((Piece.ofChars _ _).map _).map _ = _
  rw [Option.map_map]
  rfl

end Doxyfile.Template
