import Mathlib.Data.List.Chain
import Doxyfile.Proofs.Template.Cuts
import Doxyfile.Proofs.Text.Places

/-!
# Tokens by longest match

`Token.scan` cuts a text by looking at its next characters. This module says the same without the
scan. A token matches at the head of a text when its characters stand there (`Token.Matches`), and
the longest of those that match is the one to take (`Token.Longest`). `Token.Munches` cuts a text by
that rule alone. It drops a character at which nothing matches, but there is none: every text that
is not empty has exactly one longest match (`Token.existsUnique_longest`), so the rule gives the
tokens of the scan and no others (`Token.munches_iff`).

A token fits in front of a text exactly when it is the longest match there
(`Token.longest_iff_fits`), which makes what is known of fitting tokens known of longest matches.

The last section puts the tokens at their places: they tile the text (`Tiles`), and a text that is
cut where a delimiter begins is cut between two of its tokens (`Token.scan_append`).
-/

namespace Doxyfile.Template

/-! ## Matches -/

/-- Whether the token is a run of text. -/
def Token.isText : Token → Bool
  | .text _ => true
  | _ => false

/-- **The characters that a token can be cut from**: those of its kind, or any run without a `<`, a
`%` or a `-` for a text. -/
def Token.Proper : Token → Prop
  | .text run => run ≠ [] ∧ ∀ c ∈ run, c ≠ '<' ∧ c ≠ '%' ∧ c ≠ '-'
  | _ => True

/-- **The token matches at the head of the text.** -/
structure Token.Matches (rest : List Char) (token : Token) : Prop where
  proper : token.Proper
  head : token.source <+: rest

/-- **The token is the longest match at the head of the text.** -/
structure Token.Longest (rest : List Char) (token : Token) : Prop extends
    Token.Matches rest token where
  longest : ∀ other : Token, other.Matches rest → other.source.length ≤ token.source.length

/-- **A text cut by longest matches**, one behind the other. A character at which no token matches
is dropped. -/
inductive Token.Munches : List Char → List Token → Prop where
  | nil : Munches [] []
  | take {token : Token} {rest : List Char} {tokens : List Token}
      (longest : Longest (token.source ++ rest) token) (others : Munches rest tokens) :
      Munches (token.source ++ rest) (token :: tokens)
  | drop {c : Char} {rest : List Char} {tokens : List Token}
      (unmatched : ∀ token, ¬ Matches (c :: rest) token) (others : Munches rest tokens) :
      Munches (c :: rest) tokens

theorem isPlain_iff {c : Char} : isPlain c = true ↔ c ≠ '<' ∧ c ≠ '%' ∧ c ≠ '-' := by
  simp only [isPlain, Bool.and_eq_true, bne_iff_ne, and_assoc]

/-- A token that fits somewhere can be cut from its characters. -/
theorem Token.Fits.proper {token : Token} {rest : List Char} (h : token.Fits rest) :
    token.Proper := by
  cases token with
  | text run => exact ⟨h.1, fun c hc => isPlain_iff.mp (h.2.1 c hc)⟩
  | _ => trivial

/-- **At the end of a text every token fits.** -/
theorem Token.Proper.fits_nil {token : Token} (h : token.Proper) : token.Fits [] := by
  cases token with
  | opener kind =>
    cases kind with
    | code => exact fun c hc => absurd hc (by simp)
    | output => trivial
    | comment => trivial
  | escape => trivial
  | closer trims => trivial
  | lone delimiter =>
    cases delimiter with
    | less => exact fun h => nomatch h
    | percent => exact fun h => nomatch h
    | hyphen => exact fun hprefix => absurd hprefix (by decide)
  | text run =>
    exact ⟨h.1, fun c hc => isPlain_iff.mpr (h.2 c hc), fun c hc => absurd hc (by simp)⟩

/-- **Two tokens are not cut from the same characters.** -/
theorem Token.Proper.eq_of_source_eq {token other : Token} (h : token.Proper)
    (hother : other.Proper) (heq : token.source = other.source) : token = other := by
  have hscan := Token.scan_source_append h.fits_nil
  rw [heq, Token.scan_source_append hother.fits_nil] at hscan
  exact (List.cons.inj hscan).1.symm

/-- Every token but a text begins with a delimiter. -/
theorem Token.exists_delimiter {token : Token} (h : token.isText = false) :
    ∃ c others, token.source = c :: others ∧ isPlain c = false := by
  cases token with
  | opener kind => cases kind <;> exact ⟨'<', _, rfl, rfl⟩
  | escape => exact ⟨'<', _, rfl, rfl⟩
  | closer trims =>
    cases trims with
    | true => exact ⟨'-', _, rfl, rfl⟩
    | false => exact ⟨'%', _, rfl, rfl⟩
  | lone delimiter => cases delimiter <;> exact ⟨_, [], rfl, rfl⟩
  | text run => cases h

/-- A text and another token do not match at the same place. -/
theorem Token.Matches.isText_eq {rest : List Char} {token other : Token} (h : token.Matches rest)
    (hother : other.Matches rest) : token.isText = other.isText := by
  have apart : ∀ {first second : Token}, first.Matches rest → second.Matches rest →
      first.isText = true → second.isText = false → False := by
    intro first second hfirst hsecond htext hnone
    cases first with
    | text run =>
      obtain ⟨c, others, hsource, hdelimiter⟩ := Token.exists_delimiter hnone
      obtain ⟨back, hback⟩ := hsecond.head
      obtain ⟨behind, hbehind⟩ := hfirst.head
      obtain ⟨hne, hplain⟩ := hfirst.proper
      cases run with
      | nil => exact hne rfl
      | cons d run =>
        rw [hsource] at hback
        obtain rfl : c = d := (List.cons.inj (hback.trans hbehind.symm)).1
        rw [isPlain_iff.mpr (hplain c List.mem_cons_self)] at hdelimiter
        cases hdelimiter
    | _ => cases htext
  cases hone : token.isText <;> cases htwo : other.isText
  · rfl
  · exact (apart hother h htwo hone).elim
  · exact (apart h hother hone htwo).elim
  · rfl

/-- The tokens that are no texts. -/
def Token.delimiters : List Token :=
  [.opener .output, .opener .comment, .opener .code, .escape, .closer true, .closer false,
    .lone .less, .lone .percent, .lone .hyphen]

theorem Token.mem_delimiters {token : Token} (h : token.isText = false) :
    token ∈ delimiters := by
  cases token with
  | opener kind => cases kind <;> decide
  | escape => decide
  | closer trims => cases trims <;> decide
  | lone delimiter => cases delimiter <;> decide
  | text run => cases h

/-- The tokens that others go on, and with what. -/
theorem Token.further_mem : ∀ token ∈ delimiters, ∀ other ∈ delimiters,
    token.source <+: other.source → token ≠ other →
      (token, other.source.drop token.source.length) ∈
        [(.opener .code, ['=']), (.opener .code, ['#']), (.opener .code, ['%']),
          (.lone .less, ['%', '=']), (.lone .less, ['%', '#']), (.lone .less, ['%', '%']),
          (.lone .less, ['%']), (.lone .percent, ['>']), (.lone .hyphen, ['%', '>'])] := by
  decide

/-- **What a token that fits lacks for a longer one does not follow it.** -/
theorem Token.Fits.not_prefix {token other : Token} {rest further : List Char}
    (h : token.Fits rest) (hother : other.Proper) (htext : token.isText = other.isText)
    (hsource : other.source = token.source ++ further) (hne : further ≠ []) :
    ¬ further <+: rest := by
  rintro ⟨tail, rfl⟩
  cases hnone : token.isText with
  | false =>
    have hlonger : token ≠ other := by
      rintro rfl
      exact hne (List.self_eq_append_right.mp hsource)
    have hmem := Token.further_mem token (Token.mem_delimiters hnone) other
      (Token.mem_delimiters (htext.symm.trans hnone)) ⟨further, hsource.symm⟩ hlonger
    rw [hsource, List.drop_left] at hmem
    simp only [List.mem_cons, Prod.mk.injEq, List.not_mem_nil, or_false] at hmem
    rcases hmem with ⟨rfl, rfl⟩ | ⟨rfl, rfl⟩ | ⟨rfl, rfl⟩ | ⟨rfl, rfl⟩ | ⟨rfl, rfl⟩ | ⟨rfl, rfl⟩ |
      ⟨rfl, rfl⟩ | ⟨rfl, rfl⟩ | ⟨rfl, rfl⟩
    · exact (h '=' rfl).1 rfl
    · exact (h '#' rfl).2.1 rfl
    · exact (h '%' rfl).2.2 rfl
    · exact h rfl
    · exact h rfl
    · exact h rfl
    · exact h rfl
    · exact h rfl
    · exact h (List.prefix_append ['%', '>'] tail)
  | true =>
    obtain ⟨c, others, rfl⟩ := List.exists_cons_of_ne_nil hne
    cases token with
    | text run =>
      cases other with
      | text longer =>
        have hmem : c ∈ longer := by
          rw [show longer = run ++ c :: others from hsource]
          exact List.mem_append_right run List.mem_cons_self
        have hplain := isPlain_iff.mpr (hother.2 c hmem)
        rw [h.2.2 c rfl] at hplain
        cases hplain
      | _ => cases htext
    | _ => cases hnone

/-- **A token that fits is the longest match.** -/
theorem Token.Fits.longest {token : Token} {rest : List Char} (h : token.Fits rest) :
    token.Longest (token.source ++ rest) := by
  have hmatches : token.Matches (token.source ++ rest) := ⟨h.proper, List.prefix_append _ _⟩
  refine ⟨hmatches, fun other hother => ?_⟩
  by_contra hlong
  -- both stand at the head of the text, so the longer one goes on the other
  obtain ⟨further, hfurther⟩ :=
    List.prefix_of_prefix_length_le hmatches.head hother.head (Nat.le_of_not_le hlong)
  have hprefix : further <+: rest := by
    have hhead := hother.head
    rwa [← hfurther, List.prefix_append_right_inj] at hhead
  have hne : further ≠ [] := by
    rintro rfl
    rw [← hfurther, List.append_nil] at hlong
    exact hlong (Nat.le_refl _)
  exact h.not_prefix hother.proper (hmatches.isText_eq hother) hfurther.symm hne hprefix

/-- **There is one longest match.** -/
theorem Token.Longest.unique {token other : Token} {rest : List Char} (h : token.Longest rest)
    (hother : other.Longest rest) : token = other := by
  have hstarts : token.source <+: other.source :=
    List.prefix_of_prefix_length_le h.head hother.head (hother.longest token h.toMatches)
  exact h.proper.eq_of_source_eq hother.proper
    (hstarts.eq_of_length_le (h.longest other hother.toMatches))

/-- **A token is the longest match exactly when it fits** in front of what follows it. -/
theorem Token.longest_iff_fits {token : Token} {rest : List Char} :
    token.Longest (token.source ++ rest) ↔ token.Fits rest := by
  refine ⟨fun h => ?_, Token.Fits.longest⟩
  have hne : token.source ++ rest ≠ [] := by
    intro hnil
    exact h.proper.fits_nil.source_ne_nil (List.append_eq_nil_iff.mp hnil).1
  obtain ⟨first, behind, heq, hfits⟩ := Token.exists_fits hne
  obtain rfl : token = first := h.unique (heq ▸ hfits.longest)
  rwa [List.append_cancel_left heq]

/-- **A text that is not empty has exactly one longest match.** -/
theorem Token.existsUnique_longest {rest : List Char} (h : rest ≠ []) :
    ∃! token : Token, token.Longest rest := by
  obtain ⟨token, behind, rfl, hfits⟩ := Token.exists_fits h
  exact ⟨token, hfits.longest, fun other hother => hother.unique hfits.longest⟩

/-! ## Cutting by longest matches -/

/-- **Cutting by longest matches gives the tokens of the scan** and no others, and so drops
nothing. -/
theorem Token.munches_iff {cs : List Char} {tokens : List Token} :
    Munches cs tokens ↔ tokens = Token.scan cs := by
  constructor
  · intro h
    induction h with
    | nil => rfl
    | take longest others ih => rw [Token.scan_source_append (longest_iff_fits.mp longest), ih]
    | @drop c rest tokens unmatched others ih =>
      obtain ⟨token, hlongest, -⟩ := Token.existsUnique_longest (List.cons_ne_nil c rest)
      exact absurd hlongest.toMatches (unmatched token)
  · rintro rfl
    induction cs using Token.chain_induction with
    | nil => exact .nil
    | token token rest hfits ih =>
      rw [Token.scan_source_append hfits]
      exact .take hfits.longest ih

/-- **Each token of the scan is the longest match** where it was taken. -/
theorem Token.longest_of_scan {cs : List Char} {before after : List Token} {token : Token}
    (h : Token.scan cs = before ++ token :: after) :
    token.Longest (token.source ++ after.flatMap Token.source) := by
  induction cs using Token.chain_induction generalizing before with
  | nil => exact absurd h (by simp [Token.scan])
  | token first rest hfits ih =>
    rw [Token.scan_source_append hfits] at h
    cases before with
    | nil =>
      obtain ⟨rfl, rfl⟩ := List.cons.inj h
      rw [Token.scan_source]
      exact hfits.longest
    | cons other before => exact ih (List.cons.inj h).2

/-- **No two texts are neighbours** among the tokens of a scan. -/
theorem Token.scan_apart (cs : List Char) :
    (Token.scan cs).IsChain fun first second =>
      ¬ (first.isText = true ∧ second.isText = true) := by
  induction cs using Token.chain_induction with
  | nil => exact .nil
  | token token rest hfits ih =>
    rw [Token.scan_source_append hfits]
    refine List.isChain_cons.mpr ⟨fun next hnext hboth => ?_, ih⟩
    obtain ⟨tokens, htokens⟩ := List.head?_eq_some_iff.mp hnext
    cases token with
    | text run =>
      cases next with
      | text other => exact Token.scan_ne_text hfits.2.2 other tokens htokens
      | _ => exact Bool.noConfusion hboth.2
    | _ => exact Bool.noConfusion hboth.1

/-- **A cut where a delimiter may begin is a cut between tokens.** -/
theorem Token.scan_append (front : List Char) {next : List Char} (h : Separate next) :
    Token.scan (front ++ next) = Token.scan front ++ Token.scan next := by
  induction front using Token.chain_induction with
  | nil => rfl
  | token token rest hfits ih =>
    rw [List.append_assoc, Token.scan_source_append (hfits.append h), ih,
      Token.scan_source_append hfits, List.cons_append]

/-! ## Places -/

/-- The token moved towards the end of the text. -/
def Lexeme.shift (distance : Nat) (lexeme : Lexeme) : Lexeme :=
  { lexeme with span := lexeme.span.shift distance }

theorem Lexeme.map_token_place (start : Nat) (tokens : List Token) :
    (place start tokens).map Lexeme.token = tokens := by
  induction tokens generalizing start with
  | nil => rfl
  | cons token tokens ih => rw [place, List.map_cons, ih]

theorem Lexeme.place_append (start : Nat) (front back : List Token) :
    place start (front ++ back) =
      place start front ++ place (start + Text.byteLength (front.flatMap Token.source)) back := by
  induction front generalizing start with
  | nil => rfl
  | cons token front ih =>
    rw [List.cons_append, place, ih, List.flatMap_cons, Text.byteLength_append, Nat.add_assoc]
    rfl

/-- **Tokens that stand further on have the same places, moved.** -/
theorem Lexeme.place_shift (start distance : Nat) (tokens : List Token) :
    place (start + distance) tokens = (place start tokens).map (Lexeme.shift distance) := by
  induction tokens generalizing start with
  | nil => rfl
  | cons token tokens ih =>
    rw [place, Nat.add_right_comm, ih]
    rfl

/-- **Where a placed token stands**: behind the sources of those in front of it. -/
theorem Lexeme.exists_of_mem_place {start : Nat} {tokens : List Token} {lexeme : Lexeme}
    (h : lexeme ∈ place start tokens) :
    ∃ before after, tokens = before ++ lexeme.token :: after ∧
      let front := start + Text.byteLength (before.flatMap Token.source)
      lexeme.span = ⟨front, front + Text.byteLength lexeme.token.source⟩ := by
  induction tokens generalizing start with
  | nil => exact absurd h List.not_mem_nil
  | cons token tokens ih =>
    rcases List.mem_cons.mp h with rfl | h
    · exact ⟨[], tokens, rfl, rfl⟩
    · obtain ⟨before, after, rfl, hspan⟩ := ih h
      refine ⟨token :: before, after, rfl, ?_⟩
      rw [List.flatMap_cons, Text.byteLength_append, ← Nat.add_assoc]
      exact hspan

/-- **Each token begins where the one before it ends.** -/
theorem Lexeme.place_chain (start : Nat) (tokens : List Token) :
    (place start tokens).IsChain fun first second => second.span.start = first.span.stop := by
  induction tokens generalizing start with
  | nil => exact .nil
  | cons token tokens ih =>
    refine List.isChain_cons.mpr ⟨fun next hnext => ?_, ih _⟩
    cases tokens with
    | nil => cases hnext
    | cons other tokens =>
      obtain rfl := Option.some.inj hnext
      rfl

/-- **The last token ends where the sources of all of them do.** -/
theorem Lexeme.stop_of_getLast? {start : Nat} {tokens : List Token} {lexeme : Lexeme}
    (h : (place start tokens).getLast? = some lexeme) :
    lexeme.span.stop = start + Text.byteLength (tokens.flatMap Token.source) := by
  rcases List.eq_nil_or_concat tokens with rfl | ⟨front, token, rfl⟩
  · cases h
  · rw [List.concat_eq_append] at h ⊢
    rw [place_append, place, place, List.getLast?_concat] at h
    obtain rfl := Option.some.inj h
    rw [List.flatMap_append, List.flatMap_singleton, Text.byteLength_append, Nat.add_assoc]

/-- **Tokens that tile a text**, each of them the longest match where it stands. -/
structure Tiles (text : String) (lexemes : List Lexeme) : Prop where
  /-- No token is empty. -/
  nonempty : ∀ lexeme ∈ lexemes, lexeme.span.start < lexeme.span.stop
  /-- A text that is not empty has a first token. -/
  begun : text ≠ "" → lexemes ≠ []
  /-- The first token begins where the text does. -/
  first : ∀ lexeme ∈ lexemes.head?, lexeme.span.start = 0
  /-- Every other token begins where the one before it ends. -/
  next : lexemes.IsChain fun first second => second.span.start = first.span.stop
  /-- The last token ends where the text does. -/
  last : ∀ lexeme ∈ lexemes.getLast?, lexeme.span.stop = text.utf8ByteSize
  /-- The bytes at a token's place are its source. -/
  bytes : ∀ lexeme ∈ lexemes,
    String.Pos.Raw.extract text ⟨lexeme.span.start⟩ ⟨lexeme.span.stop⟩ =
      String.ofList lexeme.token.source
  /-- The sources one after the other are the text. -/
  sources : String.join (lexemes.map fun lexeme => String.ofList lexeme.token.source) = text
  /-- No delimiter character is in a text token. -/
  plain : ∀ lexeme ∈ lexemes, ∀ run, lexeme.token = .text run →
    ∀ c ∈ run, c ≠ '<' ∧ c ≠ '%' ∧ c ≠ '-'
  /-- No text token stands next to another one. -/
  apart : lexemes.IsChain fun first second =>
    ¬ (first.token.isText = true ∧ second.token.isText = true)
  /-- No token matches more of what stands from a token's start on. -/
  longest : ∀ lexeme ∈ lexemes, ∃ front rest, text.toList = front ++ rest ∧
    Text.byteLength front = lexeme.span.start ∧ lexeme.token.Longest rest

/-- Every token of a text stands at its place, in front of what it is the longest match of. -/
theorem exists_of_mem_lex {text : String} {lexeme : Lexeme} (h : lexeme ∈ lex text) :
    ∃ front back, text.toList = front ++ (lexeme.token.source ++ back) ∧
      lexeme.span =
        ⟨Text.byteLength front, Text.byteLength front + Text.byteLength lexeme.token.source⟩ ∧
      lexeme.token.Longest (lexeme.token.source ++ back) := by
  obtain ⟨before, after, hscan, hspan⟩ := Lexeme.exists_of_mem_place h
  have htext := Token.scan_source text.toList
  rw [hscan, List.flatMap_append, List.flatMap_cons] at htext
  rw [Nat.zero_add] at hspan
  exact ⟨before.flatMap Token.source, after.flatMap Token.source, htext.symm, hspan,
    Token.longest_of_scan hscan⟩

theorem tiles_lex (text : String) : Tiles text (lex text) where
  nonempty := fun lexeme hlexeme => by
    obtain ⟨front, back, -, hspan, hlongest⟩ := exists_of_mem_lex hlexeme
    have hpos := Text.byteLength_pos hlongest.proper.fits_nil.source_ne_nil
    rw [hspan]
    exact Nat.lt_add_of_pos_right hpos
  begun := fun hne hnil => by
    have htext := Token.scan_source text.toList
    rw [← Lexeme.map_token_place 0 (Token.scan text.toList), show Lexeme.place 0 _ = [] from hnil]
      at htext
    exact hne (String.toList_eq_nil_iff.mp htext.symm)
  first := fun lexeme hlexeme => by
    unfold lex at hlexeme
    cases hscan : Token.scan text.toList with
    | nil => rw [hscan] at hlexeme; cases hlexeme
    | cons token tokens =>
      rw [hscan] at hlexeme
      obtain rfl := Option.some.inj hlexeme
      rfl
  next := Lexeme.place_chain 0 _
  last := fun lexeme hlexeme => by
    rw [Lexeme.stop_of_getLast? hlexeme, Token.scan_source, Nat.zero_add, Text.utf8ByteSize_eq]
  bytes := fun lexeme hlexeme => by
    obtain ⟨front, back, htext, hspan, -⟩ := exists_of_mem_lex hlexeme
    rw [← List.append_assoc] at htext
    rw [hspan]
    exact Text.extract_eq htext
  sources := by
    rw [← String.toList_inj, String.toList_join]
    have htokens := Lexeme.map_token_place 0 (Token.scan text.toList)
    have hsources := Token.scan_source text.toList
    rw [← htokens, List.flatMap_map] at hsources
    simpa only [lex, List.flatMap_map, String.toList_ofList] using hsources
  plain := fun lexeme hlexeme run hrun => by
    obtain ⟨_, _, -, -, hlongest⟩ := exists_of_mem_lex hlexeme
    have hproper := hlongest.proper
    rw [hrun] at hproper
    exact hproper.2
  apart := by
    have hchain := Token.scan_apart text.toList
    rw [← Lexeme.map_token_place 0 (Token.scan text.toList), List.isChain_map] at hchain
    exact hchain
  longest := fun lexeme hlexeme => by
    obtain ⟨front, back, htext, hspan, hlongest⟩ := exists_of_mem_lex hlexeme
    exact ⟨front, _, htext, by rw [hspan], hlongest⟩

/-- **Tokens tile every text by longest matches.** They lie one behind the other from its first byte
to its last, and each is the longest match where it stands. They are the only tokens that a text is
cut into by longest matches; a place at which nothing matches, and something would be dropped, is
nowhere in a text. If a second text is empty or begins with `<` or `-`, the tokens of both together
are those of the first and then those of the second, moved by the length of the first. -/
theorem lex_tiles (text : String) :
    Tiles text (lex text) ∧
      (∀ tokens, Token.Munches text.toList tokens ↔ tokens = (lex text).map Lexeme.token) ∧
      (∀ rest : List Char, rest ≠ [] → ∃! token : Token, token.Longest rest) ∧
      ∀ next : String, Separate next.toList →
        lex (text ++ next) = lex text ++ (lex next).map (Lexeme.shift text.utf8ByteSize) := by
  refine ⟨tiles_lex text, fun tokens => ?_, fun rest => Token.existsUnique_longest,
    fun next hnext => ?_⟩
  · rw [lex, Lexeme.map_token_place]
    exact Token.munches_iff
  · unfold lex
    rw [String.toList_append, Token.scan_append _ hnext, Lexeme.place_append, Token.scan_source,
      Lexeme.place_shift, Text.utf8ByteSize_eq]

/-- A hyphen that begins no closer in front of a text with a closer, behind characters of two and
three bytes. -/
theorem lex_tiles_hyphens :
    Separate "-%>é".toList ∧ ['-', '%', 'x'] ≠ [] ∧
      (∃! token : Token, token.Longest ['-', '%', 'x']) ∧
      lex ("ü<%%-%　" ++ "-%>é") =
        [⟨.text ['ü'], ⟨0, 2⟩⟩, ⟨.escape, ⟨2, 5⟩⟩, ⟨.lone .hyphen, ⟨5, 6⟩⟩,
          ⟨.lone .percent, ⟨6, 7⟩⟩, ⟨.text ['　'], ⟨7, 10⟩⟩, ⟨.closer true, ⟨10, 13⟩⟩,
          ⟨.text ['é'], ⟨13, 15⟩⟩] := by
  have hseparate : Separate "-%>é".toList := by decide
  have hne : ['-', '%', 'x'] ≠ [] := List.cons_ne_nil _ _
  obtain ⟨-, -, hunique, happend⟩ := lex_tiles "ü<%%-%　"
  exact ⟨hseparate, hne, hunique _ hne, (happend _ hseparate).trans (by decide +kernel)⟩

end Doxyfile.Template
