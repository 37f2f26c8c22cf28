import Doxyfile.Proofs.Text.Places
import Doxyfile.Proofs.Template.Renaming

/-!
# The tags of a text

`Direct.tags` finds the tags of a text in one pass over its characters, as `Direct.scan` finds its
segments: an opener outside of a tag starts one, and the tag runs to its ending. It gives every tag
with its body and its place, or nothing when a tag has no ending. Whether a tag makes sense is not
asked, so a text that is refused has tags too.

The pieces of a text have exactly these tags (`Direct.tags_eq_pieces`). Every one of them stands in
the text at its span, from its opener to its closer, and each behind the one before
(`Direct.located`). A tag that is open at the end of a text is closed by `%>` behind a blank, and
then no other is open (`Direct.tags_close`).
-/

namespace Doxyfile.Template

/-- The characters of a tag, from its opener to the end of its closer. -/
def Tag.source (tag : Tag) : List Char :=
  tag.kind.source ++ tag.body ++ (Token.closer tag.trims).source

/-- What stands in front of the rest of an ending is the body of the tag and its closer. -/
theorem Ending.inner_append {before rest : List Char} {found : Ending}
    (h : ending before rest = some found) :
    found.inner ++ ['%', '>'] = found.body ++ (Token.closer found.trims).source := by
  have hsource := (ending_eq_append h).symm.trans (Ending.source_eq h)
  rw [← List.append_assoc, List.append_cons, List.append_cons] at hsource
  refine (List.append_left_inj found.rest).mp ?_
  rw [← hsource]
  simp only [List.append_assoc, List.cons_append, List.nil_append]

namespace Direct

/-- The kind of the tag that a `<%` opens in front of these characters. -/
def kindOf : List Char → TagKind
  | '=' :: _ => .output
  | '#' :: _ => .comment
  | _ => .code

/-- **The tags of the characters** that stand behind `before`, in their order; none of them when one
has no ending. -/
def tags (before : List Char) : List Char → Option (List Tag)
  | [] => some []
  | '<' :: '%' :: '%' :: rest => tags (before ++ ['<', '%', '%']) rest
  | '<' :: '%' :: rest =>
    let kind := kindOf rest
    let front := before ++ kind.source
    match _h : ending front (rest.drop (kind.source.length - 2)) with
    | none => none
    | some found =>
      let through := front ++ found.inner ++ ['%', '>']
      (tags through found.rest).map
        (⟨kind, found.body, ⟨Text.byteLength before, Text.byteLength through⟩, found.trims⟩ :: ·)
  | c :: rest => tags (before ++ [c]) rest
termination_by rest => rest.length
decreasing_by
  all_goals simp only [List.length_cons]
  all_goals try have := ending_length _h
  all_goals try rw [List.length_drop] at this
  all_goals omega

/-- The tags of a text in its order; none of them when one is never closed. -/
def tagsOf (text : String) : Option (List Tag) :=
  tags [] text.toList

/-! ## The tags over whole tokens -/

theorem tags_char {c : Char} {rest : List Char} (h : c ≠ '<' ∨ rest.head? ≠ some '%')
    (before : List Char) : tags before (c :: rest) = tags (before ++ [c]) rest := by
  rw [tags]
  all_goals
    rintro tail rfl rfl
    simp at h

theorem tags_run {front : List Char} (h : '<' ∉ front) (before rest : List Char) :
    tags before (front ++ rest) = tags (before ++ front) rest := by
  induction front generalizing before with
  | nil => rw [List.append_nil, List.nil_append]
  | cons c cs ih =>
    have hc : c ≠ '<' := fun heq => h (heq ▸ List.mem_cons_self)
    have hcs : '<' ∉ cs := fun hmem => h (List.mem_cons_of_mem c hmem)
    rw [List.cons_append, tags_char (.inl hc), ih hcs, List.append_assoc, List.singleton_append]

/-- **A token that opens no tag is passed over.** -/
theorem tags_literal {token : Token} {rest : List Char} (h : token.Fits rest)
    (hopener : ∀ kind, token ≠ .opener kind) (before : List Char) :
    tags before (token.source ++ rest) = tags (before ++ token.source) rest := by
  cases token with
  | opener kind => exact absurd rfl (hopener kind)
  | escape =>
    show tags before ('<' :: '%' :: '%' :: rest) = _
    rw [tags]
    rfl
  | closer trims => cases trims <;> exact tags_run (by decide) before rest
  | lone delimiter =>
    cases delimiter with
    | less => exact tags_char (.inr h) before
    | percent => exact tags_char (.inl (by decide)) before
    | hyphen => exact tags_char (.inl (by decide)) before
  | text run =>
    refine tags_run (fun hless => ?_) before rest
    exact absurd (h.2.1 '<' hless) (by decide)

/-- **An opener starts the tag that runs to the ending**, and the scan goes on behind it. -/
theorem tags_opener {kind : TagKind} {rest : List Char} (h : (Token.opener kind).Fits rest)
    (before : List Char) :
    tags before (kind.source ++ rest) =
      (ending (before ++ kind.source) rest).bind fun found =>
        let through := before ++ kind.source ++ found.inner ++ ['%', '>']
        (tags through found.rest).map
          (⟨kind, found.body, ⟨Text.byteLength before, Text.byteLength through⟩,
            found.trims⟩ :: ·) := by
  obtain ⟨behind, hsource, hescape, hkind, hdrop⟩ :
      ∃ behind, kind.source ++ rest = '<' :: '%' :: behind ∧ behind.head? ≠ some '%' ∧
        kindOf behind = kind ∧ behind.drop (kind.source.length - 2) = rest := by
    cases kind with
    | output => exact ⟨'=' :: rest, rfl, by simp, rfl, rfl⟩
    | comment => exact ⟨'#' :: rest, rfl, by simp, rfl, rfl⟩
    | code =>
      refine ⟨rest, rfl, fun hc => (h '%' hc).2.2 rfl, ?_, rfl⟩
      unfold kindOf
      split
      next => exact absurd rfl (h '=' rfl).1
      next => exact absurd rfl (h '#' rfl).2.1
      next => rfl
  subst hkind
  rw [hsource, tags]
  · split
    next hnone =>
      rw [hdrop] at hnone
      rw [hnone]
      rfl
    next found hfound =>
      rw [hdrop] at hfound
      rw [hfound]
      rfl
  · rintro tail rfl
    exact hescape rfl

/-- **Tag by tag**: what holds behind all characters holds in front of a token that opens no tag
when it holds behind the token, and in front of an opener when it holds behind the tag's ending. -/
theorem tags_induction {motive : List Char → List Char → Prop} (nil : ∀ before, motive before [])
    (literal : ∀ (before : List Char) (token : Token) (rest : List Char), token.Fits rest →
      (∀ kind, token ≠ .opener kind) → motive (before ++ token.source) rest →
        motive before (token.source ++ rest))
    (opener : ∀ (before : List Char) (kind : TagKind) (rest : List Char),
      (Token.opener kind).Fits rest →
      (∀ found, ending (before ++ kind.source) rest = some found →
        motive (before ++ kind.source ++ found.inner ++ ['%', '>']) found.rest) →
          motive before (kind.source ++ rest))
    (before rest : List Char) : motive before rest := by
  induction hn : rest.length using Nat.strongRecOn generalizing before rest with
  | ind n ih =>
    subst hn
    by_cases hrest : rest = []
    · exact hrest ▸ nil before
    obtain ⟨token, rest, rfl, hfits⟩ := Token.exists_fits hrest
    have hpos := List.length_pos_iff.mpr hfits.source_ne_nil
    by_cases hopener : ∃ kind, token = .opener kind
    · obtain ⟨kind, rfl⟩ := hopener
      refine opener before kind rest hfits fun found hfound => ih _ ?_ _ found.rest rfl
      have hlength := ending_length hfound
      rw [List.length_append]
      omega
    · refine literal before token rest hfits (fun kind heq => hopener ⟨kind, heq⟩)
        (ih _ ?_ _ rest rfl)
      rw [List.length_append]
      omega

/-- **The pieces of characters have exactly these tags.** -/
theorem tags_eq_pieces (before rest : List Char) :
    tags before rest =
      (Piece.ofChars (Text.byteLength before) rest).map (List.filterMap Piece.tag?) := by
  induction before, rest using tags_induction with
  | nil before =>
    rw [tags]
    rfl
  | literal before token rest hfits hopener ih =>
    rw [tags_literal hfits hopener, ih, Piece.ofChars_literal hfits hopener,
      Text.byteLength_append, Option.map_map]
    rfl
  | opener before kind rest hfits ih =>
    rw [tags_opener hfits, Piece.ofChars_opener hfits before, Option.map_bind]
    refine Option.bind_congr fun found hfound => ?_
    have hstop : Text.byteLength (before ++ kind.source ++ found.inner ++ ['%', '>']) =
        found.stop (Text.byteLength before + Text.byteLength kind.source) := by
      simp only [Ending.stop, Text.byteLength_append, Nat.add_assoc]
    show (tags _ found.rest).map _ = ((Piece.ofChars _ found.rest).map _).map _
    rw [ih found hfound, hstop, Option.map_map, Option.map_map]
    rfl

theorem tagsOf_eq_pieces (text : String) :
    tagsOf text = (Piece.ofLexemes (lex text)).map (List.filterMap Piece.tag?) :=
  tags_eq_pieces [] text.toList

/-! ## Where the tags stand -/

/-- **Every tag stands in the text at its span**, none before `before` ends and each behind the one
in front of it. -/
theorem located {before rest : List Char} {found : List Tag} (h : tags before rest = some found) :
    (∀ tag ∈ found, Text.At (before ++ rest) tag.span tag.source ∧
      Text.byteLength before ≤ tag.span.start) ∧
      found.Pairwise fun first second => first.span.stop ≤ second.span.start := by
  induction before, rest using tags_induction generalizing found with
  | nil before =>
    rw [tags] at h
    cases h
    exact ⟨List.forall_mem_nil _, .nil⟩
  | literal before token rest hfits hopener ih =>
    rw [tags_literal hfits hopener] at h
    obtain ⟨hstand, hordered⟩ := ih h
    refine ⟨fun tag htag => ?_, hordered⟩
    obtain ⟨hat, hstart⟩ := hstand tag htag
    rw [List.append_assoc] at hat
    rw [Text.byteLength_append] at hstart
    exact ⟨hat, by omega⟩
  | opener before kind rest hfits ih =>
    rw [tags_opener hfits] at h
    obtain ⟨ending, hending, htags⟩ := Option.bind_eq_some_iff.mp h
    obtain ⟨behind, hbehind, rfl⟩ := Option.map_eq_some_iff.mp htags
    obtain ⟨hstand, hordered⟩ := ih ending hending hbehind
    have hsource : before ++ kind.source ++ ending.inner ++ ['%', '>'] =
        before ++ (kind.source ++ ending.body ++ (Token.closer ending.trims).source) := by
      simp only [List.append_assoc, Ending.inner_append hending]
    have hlength := congrArg Text.byteLength hsource
    have hrest : before ++ (kind.source ++ rest) =
        before ++ (kind.source ++ ending.body ++ (Token.closer ending.trims).source) ++
          ending.rest := by
      rw [← hsource, ending_eq_append hending]
      simp only [List.append_assoc, List.cons_append, List.nil_append]
    rw [hsource, ← hrest] at hstand
    refine ⟨List.forall_mem_cons.mpr ⟨⟨⟨before, ending.rest, hrest, ?_⟩, Nat.le_refl _⟩,
      fun tag htag => ?_⟩, List.pairwise_cons.mpr ⟨fun tag htag => ?_, hordered⟩⟩
    · rw [hlength, Text.byteLength_append]
      rfl
    · obtain ⟨hat, hstart⟩ := hstand tag htag
      rw [Text.byteLength_append] at hstart
      exact ⟨hat, by omega⟩
    · rw [hlength]
      exact (hstand tag htag).2

theorem tagsOf_located {text : String} {found : List Tag} (h : tagsOf text = some found) :
    (∀ tag ∈ found, Text.At text.toList tag.span tag.source) ∧
      found.Pairwise fun first second => first.span.stop ≤ second.span.start := by
  obtain ⟨hstand, hordered⟩ := located h
  exact ⟨fun tag htag => (hstand tag htag).1, hordered⟩

/-! ## Closing an open tag -/

/-- **A tag without an ending is closed by `%>` behind a blank.** -/
theorem ending_close {before rest : List Char} (h : ending before rest = none) :
    ending before (rest ++ [' ', '%', '>']) = some ⟨rest ++ [' '], []⟩ := by
  fun_induction ending before rest with
  | case1 before =>
    have hblank : Inside before [' '] ['%', '>'] :=
      Inside.single (endsAt_of_ne (by decide) before _)
    have hends : endsAt (before ++ [' ']) ['%', '>'] = true :=
      endsAt_iff.mpr ⟨List.prefix_refl _,
        Cut.behind [] (by decide) (by decide) before _ (List.prefix_append ['%'] ['>'])⟩
    show ending before ([' '] ++ ['%', '>']) = _
    rw [hblank, ending_here hends]
    rfl
  | case2 before c rest hends => cases h
  | case3 before c rest hends ih =>
    have hnone := Option.map_eq_none_iff.mp h
    have hstays : endsAt before (c :: (rest ++ [' ', '%', '>'])) = endsAt before (c :: rest) := by
      cases rest with
      | cons d rest => exact endsAt_congr rfl before
      | nil =>
        by_cases hc : c = '%'
        · subst hc
          rw [endsAt_of_head? (by simp), endsAt_of_head? (by simp)]
        · rw [endsAt_of_ne hc, endsAt_of_ne hc]
    rw [List.cons_append, ending, hstays, if_neg hends, ih hnone]
    rfl

theorem fits_opener_close {kind : TagKind} {rest : List Char} (h : (Token.opener kind).Fits rest) :
    (Token.opener kind).Fits (rest ++ [' ', '%', '>']) := by
  cases rest with
  | cons c rest => exact h.append_of_ne_nil (List.cons_ne_nil c rest) (by simp)
  | nil =>
    cases kind with
    | output => trivial
    | comment => trivial
    | code =>
      intro c hc
      obtain rfl : ' ' = c := Option.some.inj hc
      decide

/-- **What is left open is closed by `%>` behind a blank**, and no other tag is open then. -/
theorem tags_close {before rest : List Char} (h : tags before rest = none) :
    (tags before (rest ++ [' ', '%', '>'])).isSome = true := by
  induction before, rest using tags_induction with
  | nil before =>
    rw [tags] at h
    cases h
  | literal before token rest hfits hopener ih =>
    rw [tags_literal hfits hopener] at h
    have hne : rest ≠ [] := by
      rintro rfl
      rw [tags] at h
      cases h
    rw [List.append_assoc, tags_literal (hfits.append_of_ne_nil hne (by simp)) hopener]
    exact ih h
  | opener before kind rest hfits ih =>
    rw [tags_opener hfits] at h
    rw [List.append_assoc, tags_opener (fits_opener_close hfits)]
    cases hending : ending (before ++ kind.source) rest with
    | none =>
      rw [ending_close hending, Option.bind_some, Option.isSome_map, tags]
      rfl
    | some found =>
      rw [hending, Option.bind_some, Option.map_eq_none_iff] at h
      rw [ending_append hending, Option.bind_some, Option.isSome_map]
      exact ih found hending h

end Direct

end Doxyfile.Template
