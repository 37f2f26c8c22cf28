import Doxyfile.Proofs.Template.LongestMatch

/-!
# Delimiters are recognised where they stand

Tokens are cut from the start of a text on, so what is cut at a place could depend on everything in
front of it. For the tokens that open a tag, close one or escape an opener it does not. The
characters next to a place show whether one of them is there (`Token.Shown`): those at the place and
one behind for an opener, those at the place and two in front for a closer. Other occurrences of the
same characters are parts of text, of lone delimiters, or of an opener or an escape that begins
earlier.

`Token.marks_iff_shown` is the equivalence. An opener and an escape begin with a `<`, and no token
goes on with one, so a `<` is always the start of a token. A closer begins with a `-`, of which the
same holds, or with a `%`, which can belong to a token that begins earlier; the cut between tokens
(`Cut.scan`) and the tokens that a `%` can follow (`Token.scan_append_close`) tell when it does.
-/

namespace Doxyfile.Template

/-! ## Where a token is looked for -/

/-- The tokens that open a tag, close one, or escape an opener. -/
def Token.marks : List Token :=
  [.opener .output, .opener .comment, .opener .code, .escape, .closer true, .closer false]

/-- **The token is one of the text's, and its `<%` or `%>` begins at the byte `place`.** A hyphen in
front of the `%>` belongs to the token as well. -/
def Token.Marks (text : String) (place : Nat) : Token → Prop
  | .closer trims => ∃ start, ⟨.closer trims, ⟨start, place + 2⟩⟩ ∈ lex text
  | token => ∃ stop, ⟨token, ⟨place, stop⟩⟩ ∈ lex text

/-- **What shows a token between `front` and `back`**: characters at the two sides of the cut. -/
def Token.Shown (front back : List Char) : Token → Prop
  | .opener .code => ['<', '%'] <+: back ∧ ∀ c ∈ ['=', '#', '%'], ¬ ['<', '%', c] <+: back
  | .closer trims => endsAt front back = true ∧ (trims = true ↔ ['-'] <:+ front)
  | token => token.source <+: back

/-- The tokens of a text, each behind the sources of those in front of it. -/
theorem Lexeme.mem_lex_iff {text : String} {lexeme : Lexeme} :
    lexeme ∈ lex text ↔ ∃ before after, Token.scan text.toList = before ++ lexeme.token :: after ∧
      lexeme.span = ⟨Text.byteLength (before.flatMap Token.source),
        Text.byteLength (before.flatMap Token.source) + Text.byteLength lexeme.token.source⟩ := by
  constructor
  · intro h
    obtain ⟨before, after, hscan, hspan⟩ := exists_of_mem_place h
    rw [Nat.zero_add] at hspan
    exact ⟨before, after, hscan, hspan⟩
  · rintro ⟨before, after, hscan, hspan⟩
    rw [lex, hscan, place_append, Nat.zero_add, place, ← hspan]
    exact List.mem_append_right _ List.mem_cons_self

/-- What a scan is cut at: the token, in front of characters that it fits. -/
theorem Token.fits_of_scan {cs : List Char} {before after : List Token} {token : Token}
    (h : Token.scan cs = before ++ token :: after) : token.Fits (after.flatMap Token.source) :=
  Token.longest_iff_fits.mp (Token.longest_of_scan h)

theorem Token.source_of_scan {cs : List Char} {before after : List Token} {token : Token}
    (h : Token.scan cs = before ++ token :: after) :
    cs = before.flatMap Token.source ++ (token.source ++ after.flatMap Token.source) := by
  have hsource := Token.scan_source cs
  rw [h, List.flatMap_append, List.flatMap_cons] at hsource
  exact hsource.symm

/-- **A token that begins with `<` or `-`** is found wherever its characters stand and it fits. -/
theorem exists_stop_iff {text : String} {front back : List Char} {token : Token}
    (htext : text.toList = front ++ back) (hseparate : ∀ rest, Separate (token.source ++ rest)) :
    (∃ stop, ⟨token, ⟨Text.byteLength front, stop⟩⟩ ∈ lex text) ↔
      ∃ rest, back = token.source ++ rest ∧ token.Fits rest := by
  constructor
  · rintro ⟨stop, hmem⟩
    obtain ⟨before, after, hscan, hspan⟩ := Lexeme.mem_lex_iff.mp hmem
    obtain ⟨hstart, -⟩ := Span.mk.inj hspan
    have hsource := Token.source_of_scan hscan
    rw [htext] at hsource
    exact ⟨_, (Text.eq_of_append_eq hsource hstart).2, Token.fits_of_scan hscan⟩
  · rintro ⟨rest, rfl, hfits⟩
    refine ⟨Text.byteLength front + Text.byteLength token.source,
      Lexeme.mem_lex_iff.mpr ⟨Token.scan front, Token.scan rest, ?_, ?_⟩⟩
    · rw [htext, Token.scan_append front (hseparate rest), Token.scan_source_append hfits]
    · rw [Token.scan_source]

/-! ## Closers -/

/-- **A cut between tokens stands in front of every token** of a scan. -/
theorem Cut.scan {front cs : List Char} (hcut : Cut front cs) {before after : List Token}
    {token : Token} (h : Token.scan cs = before ++ token :: after) :
    Cut (front ++ before.flatMap Token.source) (token.source ++ after.flatMap Token.source) := by
  induction cs using Token.chain_induction generalizing front before with
  | nil => exact absurd h (by simp [Token.scan])
  | token first rest hfits ih =>
    rw [Token.scan_source_append hfits] at h
    cases before with
    | nil =>
      obtain ⟨rfl, rfl⟩ := List.cons.inj h
      rw [List.flatMap_nil, List.append_nil, Token.scan_source]
      exact hcut
    | cons other before =>
      obtain ⟨rfl, htail⟩ := List.cons.inj h
      rw [List.flatMap_cons, ← List.append_assoc]
      exact ih (hcut.step hfits) htail

/-- **No hyphen stands in front of a closer that is just `%>`.** -/
theorem Token.not_hyphen_of_scan {cs : List Char} {before after : List Token}
    (h : Token.scan cs = before ++ .closer false :: after) :
    ¬ ['-'] <:+ before.flatMap Token.source := by
  intro hhyphen
  rcases List.eq_nil_or_concat before with rfl | ⟨others, last, rfl⟩
  · exact absurd hhyphen (by simp)
  · rw [List.concat_eq_append, List.append_assoc, List.singleton_append] at h
    have hfits := Token.fits_of_scan h
    refine hfits.not_prefix_of_hyphen ?_ (List.prefix_append ['%', '>'] _)
    rw [List.singleton_suffix_iff_getLast?_eq_some] at hhyphen ⊢
    rwa [List.concat_eq_append, List.flatMap_append, List.flatMap_singleton,
      List.getLast?_append_of_ne_nil _ hfits.source_ne_nil] at hhyphen

/-- **Behind a token that does not end with `<`, `<%` or `-` a `%>` is a token of its own.** -/
theorem Token.Fits.append_close {token : Token} {rest : List Char} (h : token.Fits rest)
    (hless : ¬ ['<'] <:+ token.source ++ rest) (hopen : ¬ ['<', '%'] <:+ token.source ++ rest)
    (hhyphen : ¬ ['-'] <:+ token.source ++ rest) (back : List Char) :
    token.Fits (rest ++ '%' :: '>' :: back) := by
  cases rest with
  | nil =>
    rw [List.append_nil] at hless hopen hhyphen
    cases token with
    | opener kind =>
      cases kind with
      | code => exact absurd (List.suffix_refl _) hopen
      | output => trivial
      | comment => trivial
    | escape => trivial
    | closer trims => trivial
    | lone delimiter =>
      cases delimiter with
      | less => exact absurd (List.suffix_refl _) hless
      | percent => exact fun heq => absurd (Option.some.inj heq) (by decide)
      | hyphen => exact absurd (List.suffix_refl _) hhyphen
    | text run => exact ⟨h.1, h.2.1, fun c hc => Option.some.inj hc ▸ (by decide)⟩
  | cons c rest => exact h.append_of_ne_nil (List.cons_ne_nil c rest) (by simp)

/-- A `%>` that stands behind neither `<`, `<%` nor `-` is scanned as a closer. -/
theorem Token.scan_append_close {front : List Char} (hless : ¬ ['<'] <:+ front)
    (hopen : ¬ ['<', '%'] <:+ front) (hhyphen : ¬ ['-'] <:+ front) (back : List Char) :
    Token.scan (front ++ '%' :: '>' :: back) =
      Token.scan front ++ .closer false :: Token.scan back := by
  induction front using Token.chain_induction with
  | nil => rfl
  | token token rest hfits ih =>
    have hrest : rest <:+ token.source ++ rest := List.suffix_append _ _
    rw [List.append_assoc,
      Token.scan_source_append (hfits.append_close hless hopen hhyphen back),
      ih (fun h => hless (h.trans hrest)) (fun h => hopen (h.trans hrest))
        (fun h => hhyphen (h.trans hrest)),
      Token.scan_source_append hfits, List.cons_append]

/-- The part of a closer in front of its `%>`. -/
def Token.hyphen (trims : Bool) : List Char :=
  if trims then ['-'] else []

/-- **Where a closer stands**: its hyphen, if it has one, behind the tokens in front of it, and then
its `%>`. -/
theorem Lexeme.exists_of_closer {text : String} {place start : Nat} {trims : Bool}
    (h : ⟨.closer trims, ⟨start, place + 2⟩⟩ ∈ lex text) :
    ∃ before after, Token.scan text.toList = before ++ .closer trims :: after ∧
      text.toList = before.flatMap Token.source ++ Token.hyphen trims ++
        '%' :: '>' :: after.flatMap Token.source ∧
      Text.byteLength (before.flatMap Token.source ++ Token.hyphen trims) = place ∧
      start + Text.byteLength (Token.hyphen trims) = place := by
  obtain ⟨before, after, hscan, hspan⟩ := Lexeme.mem_lex_iff.mp h
  obtain ⟨hstart, hstop⟩ := Span.mk.inj hspan
  have hsource : (Token.closer trims).source = Token.hyphen trims ++ ['%', '>'] := by
    cases trims <;> rfl
  have htext := Token.source_of_scan hscan
  have hplace : Text.byteLength (before.flatMap Token.source) +
      Text.byteLength (Token.hyphen trims) = place := by
    rw [hsource, Text.byteLength_append, ← Nat.add_assoc] at hstop
    exact (Nat.add_right_cancel hstop).symm
  refine ⟨before, after, hscan, ?_, ?_, ?_⟩
  · rw [htext, hsource]
    simp only [List.append_assoc, List.cons_append, List.nil_append]
  · rw [Text.byteLength_append, hplace]
  · rw [hstart, hplace]

/-- **Where a closer begins its `%>`**: where a tag can end, and it takes a hyphen in front along.
-/
theorem exists_start_iff {text : String} {front back : List Char} {trims : Bool}
    (htext : text.toList = front ++ back) :
    (∃ start, ⟨.closer trims, ⟨start, Text.byteLength front + 2⟩⟩ ∈ lex text) ↔
      endsAt front back = true ∧ (trims = true ↔ ['-'] <:+ front) := by
  constructor
  · rintro ⟨start, hmem⟩
    obtain ⟨before, after, hscan, hsource, hplace, -⟩ := Lexeme.exists_of_closer hmem
    rw [htext] at hsource
    obtain ⟨rfl, rfl⟩ := Text.eq_of_append_eq hsource hplace.symm
    rw [endsAt_iff]
    refine ⟨⟨List.prefix_append ['%', '>'] _, ?_⟩, ?_⟩
    · cases trims with
      | true =>
        exact Cut.behind [] (by decide) (by decide) (before.flatMap Token.source)
          ('%' :: '>' :: after.flatMap Token.source) (List.prefix_append ['%'] _)
      | false =>
        have hstart : Cut [] text.toList := fun _ => ⟨by simp, by simp⟩
        have hcut := hstart.scan hscan
        rw [Token.hyphen, if_neg Bool.false_ne_true, List.append_nil]
        exact hcut (List.prefix_append ['%'] _)
    · cases trims with
      | true => exact iff_of_true rfl (List.suffix_append _ _)
      | false =>
        rw [Token.hyphen, if_neg Bool.false_ne_true, List.append_nil]
        exact iff_of_false Bool.false_ne_true (Token.not_hyphen_of_scan hscan)
  · rintro ⟨hends, htrims⟩
    obtain ⟨⟨rest, rfl⟩, hless, hopen⟩ := endsAt_iff.mp hends
    cases trims with
    | true =>
      obtain ⟨before, rfl⟩ := htrims.mp rfl
      refine ⟨Text.byteLength before,
        Lexeme.mem_lex_iff.mpr ⟨Token.scan before, Token.scan rest, ?_, ?_⟩⟩
      · rw [htext, List.append_assoc]
        have hseparate : Separate ('-' :: '%' :: '>' :: rest) := by simp [Separate]
        exact Token.scan_append before hseparate
      · rw [Token.scan_source, Text.byteLength_append]
        rfl
    | false =>
      have hhyphen : ¬ ['-'] <:+ front := fun h => Bool.false_ne_true (htrims.mpr h)
      refine ⟨Text.byteLength front,
        Lexeme.mem_lex_iff.mpr ⟨Token.scan front, Token.scan rest, ?_, ?_⟩⟩
      · rw [htext]
        exact Token.scan_append_close hless hopen hhyphen rest
      · rw [Token.scan_source]
        rfl

/-! ## What shows a token -/

theorem Token.separate_opener (kind : TagKind) (rest : List Char) :
    Separate ((Token.opener kind).source ++ rest) := by
  intro c hc
  cases kind <;> exact .inl (Option.some.inj hc).symm

/-- **The characters at the two sides of a cut show the tokens there.** -/
theorem Token.marks_iff_shown {text : String} {front back : List Char} {token : Token}
    (htext : text.toList = front ++ back) (htoken : token ∈ marks) :
    Marks text (Text.byteLength front) token ↔ Shown front back token := by
  have hstarts : ∀ {source : List Char},
      (∃ rest, back = source ++ rest ∧ True) ↔ source <+: back := by
    intro source
    constructor
    · rintro ⟨rest, rfl, -⟩
      exact List.prefix_append source rest
    · rintro ⟨rest, rfl⟩
      exact ⟨rest, rfl, trivial⟩
  cases token with
  | opener kind =>
    have hstop := exists_stop_iff htext (Token.separate_opener kind)
    cases kind with
    | output => exact hstop.trans hstarts
    | comment => exact hstop.trans hstarts
    | code =>
      refine hstop.trans ⟨?_, ?_⟩
      · rintro ⟨rest, rfl, hfits⟩
        refine ⟨List.prefix_append _ _, fun c hc hbegins => ?_⟩
        obtain ⟨tail, rfl⟩ := (List.cons_prefix_cons.mp (List.cons_prefix_cons.mp hbegins).2).2
        have hnot := hfits c rfl
        simp_all
      · rintro ⟨⟨rest, rfl⟩, hnot⟩
        refine ⟨rest, rfl, fun c hc => ?_⟩
        obtain ⟨tail, rfl⟩ := List.head?_eq_some_iff.mp hc
        have hnone : ∀ d ∈ ['=', '#', '%'], c ≠ d := by
          rintro d hd rfl
          exact hnot c hd (List.prefix_append ['<', '%', c] tail)
        simp_all
  | escape =>
    have hseparate (rest : List Char) : Separate (Token.escape.source ++ rest) :=
      fun c hc => .inl (Option.some.inj hc).symm
    exact (exists_stop_iff htext hseparate).trans hstarts
  | closer trims => exact exists_start_iff htext
  | lone delimiter => cases delimiter <;> exact absurd htoken (by decide)
  | text run => exact absurd htoken (by simp [marks])

/-- Where a tag can end there is a closer, of one kind or the other. -/
theorem Token.exists_closer_iff {text : String} {front back : List Char}
    (htext : text.toList = front ++ back) :
    (∃ trims, Marks text (Text.byteLength front) (.closer trims)) ↔ endsAt front back = true := by
  constructor
  · rintro ⟨trims, h⟩
    exact ((exists_start_iff htext).mp h).1
  · intro hends
    refine ⟨['-'].isSuffixOf front, (exists_start_iff htext).mpr ⟨hends, ?_⟩⟩
    exact List.isSuffixOf_iff_suffix

/-- A token is between characters. -/
theorem Token.Marks.exists_cut {text : String} {place : Nat} {token : Token}
    (h : Marks text place token) :
    ∃ front back, text.toList = front ++ back ∧ Text.byteLength front = place := by
  have hstop : ∀ {stop}, ⟨token, ⟨place, stop⟩⟩ ∈ lex text →
      ∃ front back, text.toList = front ++ back ∧ Text.byteLength front = place := by
    intro stop hmem
    obtain ⟨before, after, hscan, hspan⟩ := Lexeme.mem_lex_iff.mp hmem
    exact ⟨_, _, Token.source_of_scan hscan, (Span.mk.inj hspan).1.symm⟩
  cases token with
  | closer trims =>
    obtain ⟨before, after, -, htext, hplace, -⟩ := Lexeme.exists_of_closer h.choose_spec
    exact ⟨_, _, htext, hplace⟩
  | opener kind => exact hstop h.choose_spec
  | escape => exact hstop h.choose_spec
  | lone delimiter => exact hstop h.choose_spec
  | text run => exact hstop h.choose_spec

/-- Facts that hold only at a place where the text can be cut agree when they do at every cut. -/
theorem iff_of_exists_cut {text : List Char} {place : Nat} {p q : Prop}
    (hp : p → ∃ front back, text = front ++ back ∧ Text.byteLength front = place)
    (hq : q → ∃ front back, text = front ++ back ∧ Text.byteLength front = place)
    (h : ∀ front back, text = front ++ back → Text.byteLength front = place → (p ↔ q)) :
    p ↔ q := by
  constructor
  · intro hleft
    obtain ⟨front, back, htext, hplace⟩ := hp hleft
    exact (h front back htext hplace).mp hleft
  · intro hright
    obtain ⟨front, back, htext, hplace⟩ := hq hright
    exact (h front back htext hplace).mpr hright

/-- **A token that its own characters show** stands wherever they do. -/
theorem Token.marks_iff_at {text : String} {place length : Nat} {token : Token}
    (htoken : token ∈ marks) (hlength : Text.byteLength token.source = length)
    (hshown : ∀ front back, Shown front back token ↔ token.source <+: back) :
    Marks text place token ↔ Text.At text.toList ⟨place, place + length⟩ token.source := by
  refine iff_of_exists_cut (fun h => h.exists_cut) (fun h => h.exists_cut) ?_
  rintro front back htext rfl
  rw [marks_iff_shown htext htoken, hshown, htext, Text.at_append_iff hlength]

/-- **Nothing further away matters**: two characters in front of a cut and three behind it show the
same tokens in any other text. -/
theorem Token.shown_congr {front back left right : List Char}
    (hfront : front.reverse.take 2 = left.reverse.take 2) (hback : back.take 3 = right.take 3)
    {token : Token} (htoken : token ∈ marks) : Shown front back token ↔ Shown left right token := by
  have hbegins : ∀ {content : List Char}, content.length ≤ 3 →
      (content <+: back ↔ content <+: right) := by
    intro content hlength
    have hback3 : content <+: back.take 3 ↔ content <+: right.take 3 := by rw [hback]
    rwa [List.prefix_take_iff, List.prefix_take_iff, and_iff_left hlength,
      and_iff_left hlength] at hback3
  have hsuffix : ∀ {content : List Char}, content.length ≤ 2 →
      (content <:+ front ↔ content <:+ left) := by
    intro content hlength
    rw [← List.length_reverse] at hlength
    have hfront2 : content.reverse <+: front.reverse.take 2 ↔
        content.reverse <+: left.reverse.take 2 := by rw [hfront]
    rwa [List.prefix_take_iff, List.prefix_take_iff, and_iff_left hlength, and_iff_left hlength,
      List.reverse_prefix, List.reverse_prefix] at hfront2
  have hends : endsAt front back = true ↔ endsAt left right = true := by
    rw [endsAt_iff, endsAt_iff, hbegins (by decide), hsuffix (by decide), hsuffix (by decide)]
  cases token with
  | opener kind =>
    cases kind with
    | output => exact hbegins (by decide)
    | comment => exact hbegins (by decide)
    | code =>
      refine and_congr (hbegins (by decide)) (forall₂_congr fun c _ => not_congr (hbegins ?_))
      exact Nat.le_refl 3
  | escape => exact hbegins (by decide)
  | closer trims => exact and_congr hends (iff_congr Iff.rfl (hsuffix (by decide)))
  | lone delimiter => cases delimiter <;> exact absurd htoken (by decide)
  | text run => exact absurd htoken (by simp [marks])

/-- **A token that marks a place is told by the characters next to it.** A closer has its `%>` at a
place exactly when `%>` stands there and neither `<` nor `<%` right in front of it. It is one that
trims, and begins a byte earlier, exactly when a hyphen stands right in front. The openers `<%=` and
`<%#` and the escape `<%%` begin exactly where they stand, and the opener `<%` where it stands in
front of none of the characters that make one of those of it. So two characters in front of a place
and three behind it decide, in whatever text they stand. -/
theorem lex_marks (text : String) (place : Nat) :
    ((∃ trims, Token.Marks text place (.closer trims)) ↔
        Text.At text.toList ⟨place, place + 2⟩ ['%', '>'] ∧
          ¬ Text.Before text.toList place ['<'] ∧ ¬ Text.Before text.toList place ['<', '%']) ∧
      (Token.Marks text place (.closer true) ↔
        (∃ trims, Token.Marks text place (.closer trims)) ∧
          Text.Before text.toList place ['-']) ∧
      (∀ trims start, ⟨.closer trims, ⟨start, place + 2⟩⟩ ∈ lex text →
        start + (if trims then 1 else 0) = place) ∧
      (Token.Marks text place (.opener .output) ↔
        Text.At text.toList ⟨place, place + 3⟩ ['<', '%', '=']) ∧
      (Token.Marks text place (.opener .comment) ↔
        Text.At text.toList ⟨place, place + 3⟩ ['<', '%', '#']) ∧
      (Token.Marks text place .escape ↔
        Text.At text.toList ⟨place, place + 3⟩ ['<', '%', '%']) ∧
      (Token.Marks text place (.opener .code) ↔
        Text.At text.toList ⟨place, place + 2⟩ ['<', '%'] ∧
          ∀ c ∈ ['=', '#', '%'], ¬ Text.At text.toList ⟨place + 2, place + 3⟩ [c]) ∧
      ∀ (other : String) (front back left right : List Char), text.toList = front ++ back →
        other.toList = left ++ right → front.reverse.take 2 = left.reverse.take 2 →
          back.take 3 = right.take 3 → ∀ token ∈ Token.marks,
            (Token.Marks text (Text.byteLength front) token ↔
              Token.Marks other (Text.byteLength left) token) := by
  refine ⟨iff_of_exists_cut (fun ⟨_, h⟩ => h.exists_cut) (fun h => h.1.exists_cut) ?_,
    iff_of_exists_cut (fun h => h.exists_cut) (fun ⟨⟨_, h⟩, _⟩ => h.exists_cut) ?_, ?_,
    Token.marks_iff_at (by decide) rfl fun _ _ => Iff.rfl,
    Token.marks_iff_at (by decide) rfl fun _ _ => Iff.rfl,
    Token.marks_iff_at (by decide) rfl fun _ _ => Iff.rfl,
    iff_of_exists_cut (fun h => h.exists_cut) (fun h => h.1.exists_cut) ?_, ?_⟩
  · rintro front back htext rfl
    have hclose : Text.byteLength ['%', '>'] = 2 := rfl
    rw [Token.exists_closer_iff htext, endsAt_iff, htext, Text.at_append_iff hclose,
      Text.before_append_iff, Text.before_append_iff]
  · rintro front back htext rfl
    rw [Token.exists_closer_iff htext, Token.marks_iff_shown htext (by decide), htext,
      Text.before_append_iff]
    exact and_congr_right fun _ => ⟨fun h => h.mp rfl, iff_of_true rfl⟩
  · intro trims start hmem
    obtain ⟨-, -, -, -, -, hstart⟩ := Lexeme.exists_of_closer hmem
    cases trims <;> exact hstart
  · rintro front back htext rfl
    have hsource : Text.byteLength ['<', '%'] = 2 := rfl
    rw [Token.marks_iff_shown htext (by decide), htext, Text.at_append_iff hsource]
    refine and_congr_right fun hopen => forall₂_congr fun c hc => not_congr ?_
    obtain ⟨rest, rfl⟩ := hopen
    have hbyte : Text.byteLength [c] = 1 := by
      simp only [List.mem_cons, List.not_mem_nil, or_false] at hc
      rcases hc with rfl | rfl | rfl <;> rfl
    have hplace : Text.byteLength (front ++ ['<', '%']) = Text.byteLength front + 2 :=
      Text.byteLength_append front ['<', '%']
    have hbehind : Text.At (front ++ ['<', '%'] ++ rest) ⟨Text.byteLength (front ++ ['<', '%']),
        Text.byteLength (front ++ ['<', '%']) + 1⟩ [c] ↔ [c] <+: rest :=
      Text.at_append_iff hbyte
    rw [hplace, List.append_assoc] at hbehind
    exact (List.prefix_append_right_inj ['<', '%']).trans hbehind.symm
  · intro other front back left right htext hother hfront hback token htoken
    rw [Token.marks_iff_shown htext htoken, Token.marks_iff_shown hother htoken]
    exact Token.shown_congr hfront hback htoken

/-- Percent signs in front of a closer. Behind the escape there are two of them that belong to no
`<`, as if the escape were not there; a hyphen behind the closer belongs to the next one. -/
theorem lex_marks_percents :
    let text := "é<%%%>-%>"
    let other := "%%%>-"
    text.toList = ['é', '<', '%', '%'] ++ ['%', '>', '-', '%', '>'] ∧
      other.toList = ['%', '%'] ++ ['%', '>', '-'] ∧
      (Token.Marks text 5 (.closer false) ↔ Token.Marks other 2 (.closer false)) ∧
      Token.Marks text 5 (.closer false) ∧
      ⟨.closer true, ⟨7, 10⟩⟩ ∈ lex text ∧ 7 + 1 = 8 := by
  intro text other
  obtain ⟨-, -, hstart, -, -, -, -, hlocal⟩ := lex_marks text 8
  have htext : text.toList = ['é', '<', '%', '%'] ++ ['%', '>', '-', '%', '>'] := by decide
  have hother : other.toList = ['%', '%'] ++ ['%', '>', '-'] := by decide
  have htrims : ⟨.closer true, ⟨7, 10⟩⟩ ∈ lex text := by decide +kernel
  have hcloser : ⟨.closer false, ⟨5, 7⟩⟩ ∈ lex text := by decide +kernel
  exact ⟨htext, hother, hlocal other _ _ _ _ htext hother rfl rfl (.closer false) (by decide),
    ⟨5, hcloser⟩, htrims, hstart true 7 htrims⟩

end Doxyfile.Template
