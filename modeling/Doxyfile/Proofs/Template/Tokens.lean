import Doxyfile.Template.Token

/-!
# One token at a time

`Token.scan` runs over characters. This module turns it into steps of whole tokens.

`Token.Fits` says what may follow a token: characters that do not make it a longer one. A token in
front of characters that fit it is scanned as itself (`Token.scan_source_append`), and every text
that is not empty starts with such a token (`Token.exists_fits`). So a text is a chain of fitting
tokens, and a statement about texts is proved token by token (`Token.chain_induction`).

`Cut` is what a cut between two tokens looks like from the characters alone: no `<` or `<%` ends
before a `%`. It holds behind an opener (`Cut.opener`) and then after every token (`Cut.step`). The
converse is false, since the inside of a run of text looks the same.
-/

namespace Doxyfile.Template

/-- A character that begins no delimiter. -/
def isPlain (c : Char) : Bool :=
  c != '<' && c != '%' && c != '-'

/-- **What may follow a token**: the characters `rest` make no longer token of it. -/
def Token.Fits (rest : List Char) : Token → Prop
  | .opener .code => ∀ c ∈ rest.head?, c ≠ '=' ∧ c ≠ '#' ∧ c ≠ '%'
  | .opener _ => True
  | .escape => True
  | .closer _ => True
  | .lone .less => rest.head? ≠ some '%'
  | .lone .percent => rest.head? ≠ some '>'
  | .lone .hyphen => ¬ ['%', '>'] <+: rest
  | .text run => run ≠ [] ∧ (∀ c ∈ run, isPlain c = true) ∧ ∀ c ∈ rest.head?, isPlain c = false

/-- A token that fits is not empty. -/
theorem Token.Fits.source_ne_nil {token : Token} {rest : List Char} (h : token.Fits rest) :
    token.source ≠ [] := by
  cases token with
  | opener kind => cases kind <;> exact List.cons_ne_nil _ _
  | escape => exact List.cons_ne_nil _ _
  | closer trims => cases trims <;> exact List.cons_ne_nil _ _
  | lone delimiter => exact List.cons_ne_nil _ _
  | text run => exact h.1

/-- **A token in front of other characters still fits** when something is put behind those, unless
it completes a `%>`. -/
theorem Token.Fits.append_of_ne_nil {token : Token} {rest next : List Char} (h : token.Fits rest)
    (hne : rest ≠ []) (hnext : next.head? ≠ some '>') : token.Fits (rest ++ next) := by
  cases rest with
  | nil => exact absurd rfl hne
  | cons c rest =>
    cases token with
    | opener kind => cases kind <;> exact h
    | escape => trivial
    | closer trims => trivial
    | text run => exact h
    | lone delimiter =>
      cases delimiter with
      | less => exact h
      | percent => exact h
      | hyphen =>
        rintro ⟨tail, heq⟩
        obtain ⟨rfl, htail⟩ := List.cons.inj heq
        cases rest with
        | nil => exact hnext (congrArg List.head? htail).symm
        | cons d rest =>
          obtain ⟨rfl, -⟩ := List.cons.inj htail
          exact h (List.prefix_append ['%', '>'] rest)

/-! ## Scanning a token -/

theorem Token.scan_plain {c : Char} (h : isPlain c = true) (cs : List Char) :
    Token.scan (c :: cs) = Token.absorb c (Token.scan cs) := by
  simp only [isPlain, Bool.and_eq_true, bne_iff_ne] at h
  obtain ⟨⟨hless, hpercent⟩, hhyphen⟩ := h
  rw [Token.scan]
  all_goals simp_all

/-- No text run is scanned where no plain character stands. -/
theorem Token.scan_ne_text {rest : List Char} (h : ∀ c ∈ rest.head?, isPlain c = false)
    (run : List Char) (tokens : List Token) : Token.scan rest ≠ .text run :: tokens := by
  fun_cases Token.scan rest
  all_goals simp_all [isPlain]

/-- **A run of plain characters is one token**, when what follows is not plain. -/
theorem Token.scan_run {run rest : List Char} (hne : run ≠ []) (hrun : ∀ c ∈ run, isPlain c = true)
    (hrest : ∀ c ∈ rest.head?, isPlain c = false) :
    Token.scan (run ++ rest) = .text run :: Token.scan rest := by
  induction run with
  | nil => exact absurd rfl hne
  | cons c cs ih =>
    rw [List.cons_append, Token.scan_plain (hrun c List.mem_cons_self)]
    cases cs with
    | nil =>
      rw [List.nil_append]
      unfold Token.absorb
      split
      next run' tokens' heq => exact absurd heq (Token.scan_ne_text hrest run' tokens')
      next => rfl
    | cons d ds =>
      rw [ih (List.cons_ne_nil d ds) fun x hx => hrun x (List.mem_cons_of_mem c hx)]
      rfl

/-- **A token that fits is scanned as itself.** -/
theorem Token.scan_source_append {token : Token} {rest : List Char} (h : token.Fits rest) :
    Token.scan (token.source ++ rest) = token :: Token.scan rest := by
  cases token with
  | opener kind =>
    cases kind with
    | output => rfl
    | comment => rfl
    | code =>
      cases rest with
      | nil => rfl
      | cons c cs =>
        obtain ⟨hequals, hhash, hpercent⟩ := h c rfl
        show Token.scan ('<' :: '%' :: c :: cs) = _
        rw [Token.scan]
        all_goals simp_all
  | escape => rfl
  | closer trims => cases trims <;> rfl
  | lone delimiter =>
    cases delimiter with
    | less =>
      show Token.scan ('<' :: rest) = _
      rw [Token.scan]
      all_goals rintro cs rfl; exact h rfl
    | percent =>
      show Token.scan ('%' :: rest) = _
      rw [Token.scan]
      rintro cs rfl
      exact h rfl
    | hyphen =>
      show Token.scan ('-' :: rest) = _
      rw [Token.scan]
      rintro cs rfl
      exact h (List.prefix_append ['%', '>'] cs)
  | text run => exact Token.scan_run h.1 h.2.1 h.2.2

/-! ## Every text is a chain of fitting tokens -/

/-- What follows the longest run of plain characters is not plain. -/
theorem isPlain_head?_dropWhile (cs : List Char) :
    ∀ c ∈ (cs.dropWhile isPlain).head?, isPlain c = false := by
  intro c hc
  have hhead := List.head?_dropWhile_not isPlain cs
  rw [Option.mem_def.mp hc] at hhead
  simpa using hhead

/-- **Every text that is not empty starts with a token that fits.** -/
theorem Token.exists_fits {cs : List Char} (h : cs ≠ []) :
    ∃ (token : Token) (rest : List Char), cs = token.source ++ rest ∧ token.Fits rest := by
  fun_cases Token.scan cs with
  | case1 => exact absurd rfl h
  | case2 rest => exact ⟨.opener .output, rest, rfl, trivial⟩
  | case3 rest => exact ⟨.opener .comment, rest, rfl, trivial⟩
  | case4 rest => exact ⟨.escape, rest, rfl, trivial⟩
  | case5 rest hequals hhash hpercent =>
    refine ⟨.opener .code, rest, rfl, fun c hc => ?_⟩
    obtain ⟨tail, rfl⟩ := List.head?_eq_some_iff.mp hc
    refine ⟨?_, ?_, ?_⟩
    · rintro rfl; exact hequals tail rfl
    · rintro rfl; exact hhash tail rfl
    · rintro rfl; exact hpercent tail rfl
  | case6 rest hequals hhash hpercent hopen =>
    refine ⟨.lone .less, rest, rfl, fun hc => ?_⟩
    obtain ⟨tail, rfl⟩ := List.head?_eq_some_iff.mp hc
    exact hopen tail rfl
  | case7 rest => exact ⟨.closer true, rest, rfl, trivial⟩
  | case8 rest hclose =>
    refine ⟨.lone .hyphen, rest, rfl, fun hpre => ?_⟩
    obtain ⟨tail, rfl⟩ := hpre
    exact hclose tail rfl
  | case9 rest => exact ⟨.closer false, rest, rfl, trivial⟩
  | case10 rest hclose =>
    refine ⟨.lone .percent, rest, rfl, fun hc => ?_⟩
    obtain ⟨tail, rfl⟩ := List.head?_eq_some_iff.mp hc
    exact hclose tail rfl
  | case11 c rest =>
    have hplain : isPlain c = true := by simp_all [isPlain]
    refine ⟨.text (c :: rest.takeWhile isPlain), rest.dropWhile isPlain, ?_, ?_, ?_, ?_⟩
    · simp only [Token.source, List.cons_append, List.takeWhile_append_dropWhile]
    · exact List.cons_ne_nil _ _
    · intro x hx
      rcases List.mem_cons.mp hx with rfl | hx
      · exact hplain
      · exact List.all_eq_true.mp List.all_takeWhile x hx
    · exact isPlain_head?_dropWhile rest

/-- **Token by token**: what holds of the empty text, and of a text when it holds behind the text's
first token, holds of every text. -/
theorem Token.chain_induction {motive : List Char → Prop} (nil : motive [])
    (token : ∀ (token : Token) (rest : List Char), token.Fits rest → motive rest →
      motive (token.source ++ rest))
    (cs : List Char) : motive cs := by
  induction hn : cs.length using Nat.strongRecOn generalizing cs with
  | ind n ih =>
    subst hn
    by_cases hcs : cs = []
    · exact hcs ▸ nil
    · obtain ⟨first, rest, rfl, hfits⟩ := Token.exists_fits hcs
      have hpos := List.length_pos_iff.mpr hfits.source_ne_nil
      refine token first rest hfits (ih rest.length ?_ rest rfl)
      rw [List.length_append]
      omega

/-! ## Cuts between tokens -/

/-- **What a cut between tokens looks like**: no `<` and no `<%` ends where a `%` begins. -/
def Cut (before rest : List Char) : Prop :=
  ['%'] <+: rest → ¬ ['<'] <:+ before ∧ ¬ ['<', '%'] <:+ before

theorem pair_suffix_append_singleton {a b c : Char} {cs : List Char} :
    [a, b] <:+ cs ++ [c] ↔ [a] <:+ cs ∧ b = c := by
  constructor
  · intro h
    obtain rfl : b = c :=
      List.singleton_suffix_append_singleton_iff.mp ((List.suffix_cons a [b]).trans h)
    exact ⟨List.suffix_append_self_iff.mp h, rfl⟩
  · rintro ⟨h, rfl⟩
    exact List.suffix_append_self_iff.mpr h

/-- A cut stands behind a character that is neither `<` nor `%`. -/
theorem Cut.behind (front : List Char) {c : Char} (hless : c ≠ '<') (hpercent : c ≠ '%')
    (before rest : List Char) : Cut (before ++ (front ++ [c])) rest := by
  intro _
  rw [← List.append_assoc, List.singleton_suffix_append_singleton_iff, pair_suffix_append_singleton]
  exact ⟨fun h => hless h.symm, fun h => hpercent h.2.symm⟩

/-- A cut stands in front of everything that does not begin with `%`. -/
theorem Cut.front {rest : List Char} (h : rest.head? ≠ some '%') (before : List Char) :
    Cut before rest := by
  rintro ⟨tail, rfl⟩
  exact absurd rfl h

/-- **A cut stands behind the opener of a tag.** -/
theorem Cut.opener {kind : TagKind} {rest : List Char} (h : (Token.opener kind).Fits rest)
    (before : List Char) : Cut (before ++ kind.source) rest := by
  cases kind with
  | output => exact Cut.behind ['<', '%'] (by decide) (by decide) before rest
  | comment => exact Cut.behind ['<', '%'] (by decide) (by decide) before rest
  | code => exact Cut.front (fun hc => (h '%' hc).2.2 rfl) _

/-- **A cut in front of a token gives the cut behind it.** -/
theorem Cut.step {token : Token} {before rest : List Char}
    (hcut : Cut before (token.source ++ rest)) (h : token.Fits rest) :
    Cut (before ++ token.source) rest := by
  cases token with
  | opener kind => exact Cut.opener h before
  | escape =>
    -- behind `<%%` the last two characters are `%%`
    intro _
    rw [show before ++ Token.escape.source = before ++ ['<', '%'] ++ ['%'] by
      simp only [Token.source, List.append_assoc, List.cons_append, List.nil_append]]
    rw [List.singleton_suffix_append_singleton_iff, pair_suffix_append_singleton,
      List.append_cons, List.singleton_suffix_append_singleton_iff]
    exact ⟨by decide, fun h => absurd h.1 (by decide)⟩
  | closer trims =>
    cases trims with
    | false => exact Cut.behind ['%'] (by decide) (by decide) before rest
    | true => exact Cut.behind ['-', '%'] (by decide) (by decide) before rest
  | lone delimiter =>
    cases delimiter with
    | less => exact Cut.front h _
    | hyphen => exact Cut.behind [] (by decide) (by decide) before rest
    | percent =>
      -- the only token behind which the cut is that in front of it
      intro _
      have hless := (hcut ⟨rest, rfl⟩).1
      show ¬ ['<'] <:+ before ++ ['%'] ∧ ¬ ['<', '%'] <:+ before ++ ['%']
      rw [List.singleton_suffix_append_singleton_iff, pair_suffix_append_singleton]
      exact ⟨by decide, fun h => hless h.1⟩
  | text run =>
    obtain ⟨hne, hplain, -⟩ := h
    obtain ⟨front, c, rfl⟩ : ∃ front c, run = front ++ [c] :=
      ⟨run.dropLast, run.getLast hne, (List.dropLast_concat_getLast hne).symm⟩
    have hc := hplain c (List.mem_append_right front (List.mem_singleton_self c))
    simp only [isPlain, Bool.and_eq_true, bne_iff_ne] at hc
    exact Cut.behind front hc.1.1 hc.1.2 before rest

end Doxyfile.Template
