import Doxyfile.Proofs.Template.TagEnding

/-!
# Cuts through a template's text

A text that begins with `<` or `-` can be put behind any other without changing how either is
taken to pieces: no token goes on with one of these characters (`Separate`, `Token.Fits.append`),
and a tag ends where it does whatever stands behind it (`ending_congr`). So the pieces of the whole
are those of the first text and then those of the second (`Piece.ofChars_append`), as long as no tag
of the first is left open. Pieces that stand further on are the same pieces with their places moved
(`Piece.ofChars_shift`).

Both are proved piece by piece (`Piece.chain_induction`), as statements about tokens are proved
token by token: behind a literal, or behind a tag with its body and its closer, the text goes on as
if nothing had been there.
-/

namespace Doxyfile.Template

/-- The tag moved towards the end of the text. -/
def Tag.shift (distance : Nat) (tag : Tag) : Tag :=
  { tag with span := tag.span.shift distance }

/-- The piece moved towards the end of the text. -/
def Piece.shift (distance : Nat) : Piece → Piece
  | .literal content => .literal content
  | .tag found => .tag (found.shift distance)

/-! ## Piece by piece -/

theorem Piece.ofChars_unclosed {kind : TagKind} {rest : List Char}
    (h : (Token.opener kind).Fits rest) (hnone : ending kind.source rest = none) (start : Nat) :
    Piece.ofChars start (kind.source ++ rest) = none := by
  rw [Piece.ofChars_opener h [], List.nil_append, hnone, Option.bind_none]

theorem Piece.ofChars_tag {kind : TagKind} {rest : List Char} {found : Ending}
    (h : (Token.opener kind).Fits rest) (hfound : ending kind.source rest = some found)
    (start : Nat) :
    Piece.ofChars start (kind.source ++ rest) =
      (Piece.ofChars (found.stop (start + Text.byteLength kind.source)) found.rest).map
        (.tag ⟨kind, found.body, ⟨start, found.stop (start + Text.byteLength kind.source)⟩,
          found.trims⟩ :: ·) := by
  rw [Piece.ofChars_opener h [], List.nil_append, hfound, Option.bind_some]

/-- **Piece by piece**: what holds of the empty text, of a text with an open tag at its head, and of
a text when it holds behind the literal or the tag at its head, holds of every text. -/
theorem Piece.chain_induction {motive : List Char → Prop} (nil : motive [])
    (literal : ∀ (token : Token) (rest : List Char), token.Fits rest →
      (∀ kind, token ≠ .opener kind) → motive rest → motive (token.source ++ rest))
    (unclosed : ∀ (kind : TagKind) (rest : List Char), (Token.opener kind).Fits rest →
      ending kind.source rest = none → motive (kind.source ++ rest))
    (tag : ∀ (kind : TagKind) (rest : List Char) (found : Ending), (Token.opener kind).Fits rest →
      ending kind.source rest = some found → motive found.rest → motive (kind.source ++ rest))
    (cs : List Char) : motive cs := by
  induction hn : cs.length using Nat.strongRecOn generalizing cs with
  | ind n ih =>
    subst hn
    by_cases hcs : cs = []
    · exact hcs ▸ nil
    obtain ⟨token, rest, rfl, hfits⟩ := Token.exists_fits hcs
    have hpos := List.length_pos_iff.mpr hfits.source_ne_nil
    by_cases hopener : ∃ kind, token = .opener kind
    · obtain ⟨kind, rfl⟩ := hopener
      cases hfound : ending kind.source rest with
      | none => exact unclosed kind rest hfits hfound
      | some found =>
        have hlength := ending_length hfound
        refine tag kind rest found hfits hfound (ih _ ?_ found.rest rfl)
        rw [List.length_append]
        omega
    · refine literal token rest hfits (fun kind heq => hopener ⟨kind, heq⟩) (ih _ ?_ rest rfl)
      rw [List.length_append]
      omega

theorem Ending.stop_add {before rest : List Char} {found : Ending}
    (h : ending before rest = some found) (start : Nat) :
    found.stop start + Text.byteLength found.rest = start + Text.byteLength rest := by
  rw [Ending.stop, ending_eq_append h]
  simp only [Text.byteLength_append, Text.byteLength_cons, Text.byteLength_nil]
  omega

/-- **Pieces that stand further on are the same pieces, moved.** -/
theorem Piece.ofChars_shift (start distance : Nat) (cs : List Char) :
    Piece.ofChars (start + distance) cs =
      (Piece.ofChars start cs).map (List.map (Piece.shift distance)) := by
  induction cs using Piece.chain_induction generalizing start with
  | nil => rfl
  | literal token rest hfits hopener ih =>
    rw [Piece.ofChars_literal hfits hopener, Piece.ofChars_literal hfits hopener,
      Nat.add_right_comm, ih, Option.map_map, Option.map_map]
    rfl
  | unclosed kind rest hfits hnone =>
    rw [Piece.ofChars_unclosed hfits hnone, Piece.ofChars_unclosed hfits hnone, Option.map_none]
  | tag kind rest found hfits hfound ih =>
    have hstop : found.stop (start + distance + Text.byteLength kind.source) =
        found.stop (start + Text.byteLength kind.source) + distance := by
      simp only [Ending.stop]
      omega
    rw [Piece.ofChars_tag hfits hfound, Piece.ofChars_tag hfits hfound, hstop, ih, Option.map_map,
      Option.map_map]
    rfl

/-! ## Cuts -/

/-- **What can be put behind any text**: nothing, or something that begins with `<` or `-`. -/
def Separate (rest : List Char) : Prop :=
  ∀ c ∈ rest.head?, c = '<' ∨ c = '-'

instance : (rest : List Char) → Decidable (Separate rest)
  | [] => .isTrue fun _ h => nomatch h
  | c :: _ => decidable_of_iff (c = '<' ∨ c = '-')
    ⟨fun h _ hc => Option.some.inj hc ▸ h, fun h => h c rfl⟩

/-- **A token still fits** when something separate is put behind what follows it. -/
theorem Token.Fits.append {token : Token} {rest next : List Char} (h : token.Fits rest)
    (hnext : Separate next) : token.Fits (rest ++ next) := by
  have hhead : ∀ c ∈ (rest ++ next).head?, c ∈ rest.head? ∨ c = '<' ∨ c = '-' := by
    intro c hc
    cases rest with
    | nil => exact .inr (hnext c hc)
    | cons d rest => exact .inl hc
  cases token with
  | opener kind =>
    cases kind with
    | output => trivial
    | comment => trivial
    | code =>
      intro c hc
      rcases hhead c hc with hc | rfl | rfl
      · exact h c hc
      · decide
      · decide
  | escape => trivial
  | closer trims => trivial
  | lone delimiter =>
    cases delimiter with
    | less =>
      intro hc
      rcases hhead _ hc with hc | hc | hc
      · exact h hc
      · exact absurd hc (by decide)
      · exact absurd hc (by decide)
    | percent =>
      intro hc
      rcases hhead _ hc with hc | hc | hc
      · exact h hc
      · exact absurd hc (by decide)
      · exact absurd hc (by decide)
    | hyphen =>
      -- a `%>` behind the hyphen would lie in `rest`, since `next` begins with neither character
      rintro ⟨tail, heq⟩
      cases rest with
      | nil => exact absurd (hnext '%' (by rw [← List.nil_append next, ← heq]; rfl)) (by decide)
      | cons c rest =>
        obtain ⟨rfl, htail⟩ := List.cons.inj heq
        have hgreater : (rest ++ next).head? = some '>' := congrArg List.head? htail.symm
        cases rest with
        | nil => exact absurd (hnext '>' hgreater) (by decide)
        | cons d rest =>
          obtain rfl : d = '>' := Option.some.inj hgreater
          exact h (List.prefix_append ['%', '>'] rest)
  | text run =>
    refine ⟨h.1, h.2.1, fun c hc => ?_⟩
    rcases hhead c hc with hc | rfl | rfl
    · exact h.2.2 c hc
    · decide
    · decide

theorem Token.Fits.of_append {token : Token} {rest next : List Char}
    (h : token.Fits (rest ++ next)) : token.Fits rest := by
  have hhead : ∀ c ∈ rest.head?, c ∈ (rest ++ next).head? := by
    intro c hc
    rw [List.head?_append, Option.mem_def.mp hc]
    rfl
  cases token with
  | opener kind =>
    cases kind with
    | output => trivial
    | comment => trivial
    | code => exact fun c hc => h c (hhead c hc)
  | escape => trivial
  | closer trims => trivial
  | lone delimiter =>
    cases delimiter with
    | less => exact fun hc => h (hhead _ hc)
    | percent => exact fun hc => h (hhead _ hc)
    | hyphen => exact fun hpre => h (hpre.trans (List.prefix_append rest next))
  | text run => exact ⟨h.1, h.2.1, fun c hc => h.2.2 c (hhead c hc)⟩

theorem endsAt_congr {c : Char} {rest next : List Char} (h : rest.head? = next.head?)
    (before : List Char) : endsAt before (c :: rest) = endsAt before (c :: next) := by
  have hprefix : ['%', '>'].isPrefixOf (c :: rest) = ['%', '>'].isPrefixOf (c :: next) := by
    cases rest with
    | nil =>
      cases next with
      | nil => rfl
      | cons d next => cases h
    | cons d rest =>
      cases next with
      | nil => cases h
      | cons e next =>
        cases h
        rfl
  rw [endsAt, endsAt, hprefix]

/-- **A tag ends where it does whatever stands behind it.** -/
theorem ending_congr {before rest : List Char} {found : Ending}
    (h : ending before rest = some found) (next : List Char) :
    ending before (found.inner ++ '%' :: '>' :: next) = some ⟨found.inner, next⟩ := by
  fun_induction ending before rest generalizing found with
  | case1 => cases h
  | case2 before c rest hends =>
    cases h
    obtain ⟨-, hbefore⟩ := endsAt_iff.mp hends
    exact ending_here (endsAt_iff.mpr ⟨List.prefix_append ['%', '>'] next, hbefore⟩)
  | case3 before c rest hends ih =>
    obtain ⟨tail, htail, rfl⟩ := Option.map_eq_some_iff.mp h
    have hhead : rest.head? = (tail.inner ++ '%' :: '>' :: next).head? := by
      rw [ending_eq_append htail]
      cases tail.inner <;> rfl
    rw [List.cons_append, ending, ← endsAt_congr hhead, if_neg hends, ih htail]
    rfl

theorem ending_append {before rest : List Char} {found : Ending}
    (h : ending before rest = some found) (next : List Char) :
    ending before (rest ++ next) = some ⟨found.inner, found.rest ++ next⟩ := by
  have hcongr := ending_congr h (found.rest ++ next)
  rw [ending_eq_append h]
  simpa only [List.append_assoc, List.cons_append] using hcongr

/-- **The pieces of joined texts** are those of the first and then those of the second. -/
theorem Piece.ofChars_append {start : Nat} {front next : List Char} {pieces : List Piece}
    (h : Piece.ofChars start front = some pieces) (hnext : Separate next) :
    Piece.ofChars start (front ++ next) =
      (Piece.ofChars (start + Text.byteLength front) next).map (pieces ++ ·) := by
  induction front using Piece.chain_induction generalizing start pieces with
  | nil =>
    cases h
    exact (congrFun Option.map_id _).symm
  | literal token rest hfits hopener ih =>
    rw [Piece.ofChars_literal hfits hopener] at h
    obtain ⟨others, hothers, rfl⟩ := Option.map_eq_some_iff.mp h
    rw [List.append_assoc, Piece.ofChars_literal (hfits.append hnext) hopener, ih hothers,
      Option.map_map, Text.byteLength_append, Nat.add_assoc]
    rfl
  | unclosed kind rest hfits hnone =>
    rw [Piece.ofChars_unclosed hfits hnone] at h
    cases h
  | tag kind rest found hfits hfound ih =>
    rw [Piece.ofChars_tag hfits hfound] at h
    obtain ⟨others, hothers, rfl⟩ := Option.map_eq_some_iff.mp h
    have happend := ending_append hfound next
    rw [List.append_assoc, Piece.ofChars_tag (hfits.append hnext) happend]
    show (Piece.ofChars (found.stop _) (found.rest ++ next)).map _ = _
    rw [ih hothers, Option.map_map, Ending.stop_add hfound, Text.byteLength_append, Nat.add_assoc]
    rfl

end Doxyfile.Template
