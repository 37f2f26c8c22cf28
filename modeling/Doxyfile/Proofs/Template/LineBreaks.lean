import Doxyfile.Proofs.Text.LineBreaks
import Doxyfile.Proofs.Template.Renaming
import Doxyfile.Proofs.Template.Rewriting

/-!
# Templates with other line breaks

A template without carriage returns may have its line feeds written with one in front, and it is
read as before: with the same fields and comments, the same errors, and line breaks changed in the
same way in every text (`parse_crlf`). Places move by the line breaks in front of them.

The proof goes piece by piece. A token stays a token of its kind (`Token.Fits.crlf`), a tag ends
where it did (`ending_crlf`) and is judged as it was (`Tag.judge_crlf`), and a closer that trims
takes the longer line break in place of the shorter one (`dropLineBreak_crlf`). This last step is
where a carriage return in the old text would do harm: behind one, the new text holds a line break
that the old one did not.
-/

namespace Doxyfile.Template

open Text

/-! ## Tokens -/

/-- The token with the line breaks of its text changed. -/
def Token.crlf : Token → Token
  | .text run => .text (Text.crlf run)
  | token => token

theorem TagKind.crlf_source (kind : TagKind) : Text.crlf kind.source = kind.source := by
  cases kind <;> rfl

theorem Token.source_crlf (token : Token) : token.crlf.source = Text.crlf token.source := by
  cases token with
  | opener kind => exact kind.crlf_source.symm
  | escape => rfl
  | closer trims => cases trims <;> rfl
  | lone delimiter => cases delimiter <;> rfl
  | text run => rfl

theorem Token.literal_crlf (token : Token) : token.crlf.literal = Text.crlf token.literal := by
  cases token with
  | opener kind => exact kind.crlf_source.symm
  | escape => rfl
  | closer trims => cases trims <;> rfl
  | lone delimiter => cases delimiter <;> rfl
  | text run => rfl

theorem Token.crlf_ne_opener {token : Token} (h : ∀ kind, token ≠ .opener kind) (kind : TagKind) :
    token.crlf ≠ .opener kind := by
  cases token with
  | opener other => exact absurd rfl (h other)
  | escape => exact Token.noConfusion
  | closer trims => exact Token.noConfusion
  | lone delimiter => exact Token.noConfusion
  | text run => exact Token.noConfusion

theorem isPlain_withReturn {c : Char} (h : isPlain c = true) :
    ∀ x ∈ withReturn c, isPlain x = true := by
  unfold withReturn
  split
  next => exact List.forall_mem_cons.mpr ⟨rfl, List.forall_mem_singleton.mpr rfl⟩
  next => exact List.forall_mem_singleton.mpr h

theorem closer_prefix_crlf_iff (rest : List Char) :
    ['%', '>'] <+: Text.crlf rest ↔ ['%', '>'] <+: rest :=
  prefix_crlf_iff
    (List.forall_mem_cons.mpr ⟨by decide, List.forall_mem_singleton.mpr (by decide)⟩) rest

/-- What follows a token begins as before, but for a line break. -/
theorem head?_crlf_of_ne {rest : List Char} {c : Char} (h : c ∈ (Text.crlf rest).head?) :
    c = '\r' ∨ c ∈ rest.head? := by
  rw [head?_crlf] at h
  obtain ⟨d, hd, rfl⟩ := Option.map_eq_some_iff.mp h
  split
  next => exact .inl rfl
  next => exact .inr hd

/-- **A token fits in front of the same characters with other line breaks.** -/
theorem Token.Fits.crlf {token : Token} {rest : List Char} (h : token.Fits rest) :
    token.crlf.Fits (Text.crlf rest) := by
  cases token with
  | opener kind =>
    cases kind with
    | output => trivial
    | comment => trivial
    | code =>
      intro c hc
      rcases head?_crlf_of_ne hc with rfl | hc
      · decide
      · exact h c hc
  | escape => trivial
  | closer trims => trivial
  | lone delimiter =>
    cases delimiter with
    | less => exact fun hc => h ((head?_crlf_of_ne hc).resolve_left (by decide))
    | percent => exact fun hc => h ((head?_crlf_of_ne hc).resolve_left (by decide))
    | hyphen => exact fun hpre => h ((closer_prefix_crlf_iff rest).mp hpre)
  | text run =>
    obtain ⟨hne, hrun, hrest⟩ := h
    refine ⟨fun hnil => hne (crlf_eq_nil_iff.mp hnil), fun x hx => ?_, fun c hc => ?_⟩
    · obtain ⟨c, hc, hx⟩ := List.mem_flatMap.mp hx
      exact isPlain_withReturn (hrun c hc) x hx
    · -- a carriage return would be plain, but then a line feed follows the run in the old text
      rw [head?_crlf] at hc
      obtain ⟨d, hd, rfl⟩ := Option.map_eq_some_iff.mp hc
      have hplain := hrest d hd
      split
      next hbreak => exact absurd (hbreak ▸ hplain) (by decide)
      next => exact hplain

/-! ## The ending of a tag -/

/-- The ending with other line breaks in front of it and behind it. -/
def Ending.crlf (found : Ending) : Ending :=
  ⟨Text.crlf found.inner, Text.crlf found.rest⟩

theorem Ending.trims_crlf (found : Ending) : found.crlf.trims = found.trims := by
  rw [Ending.trims, Ending.crlf, getLast?_crlf]
  rfl

theorem Ending.body_crlf (found : Ending) : found.crlf.body = Text.crlf found.body := by
  rw [Ending.body, Ending.body, Ending.trims_crlf]
  split
  next htrims =>
    refine dropLast_crlf fun hbreak => ?_
    rw [Ending.trims, hbreak] at htrims
    exact absurd htrims (by decide)
  next => rfl

theorem pair_suffix_crlf_iff {a b : Char} (hb : b ≠ '\n') (cs : List Char) :
    [a, b] <:+ Text.crlf cs ↔ [a, b] <:+ cs := by
  rcases List.eq_nil_or_concat cs with rfl | ⟨init, c, rfl⟩
  · exact Iff.rfl
  · rw [List.concat_eq_append, crlf_append, crlf_singleton, pair_suffix_append_singleton]
    by_cases hc : c = '\n'
    · subst hc
      show [a, b] <:+ Text.crlf init ++ (['\r'] ++ ['\n']) ↔ _
      rw [← List.append_assoc, pair_suffix_append_singleton]
      exact ⟨fun h => absurd h.2 hb, fun h => absurd h.2 hb⟩
    · rw [withReturn_of_ne hc, pair_suffix_append_singleton,
        List.singleton_suffix_iff_getLast?_eq_some, List.singleton_suffix_iff_getLast?_eq_some,
        getLast?_crlf]

/-- A tag can end where it could. -/
theorem endsAt_crlf (before rest : List Char) :
    endsAt (Text.crlf before) (Text.crlf rest) = endsAt before rest := by
  rw [Bool.eq_iff_iff, endsAt_iff, endsAt_iff, closer_prefix_crlf_iff,
    List.singleton_suffix_iff_getLast?_eq_some, getLast?_crlf,
    ← List.singleton_suffix_iff_getLast?_eq_some, pair_suffix_crlf_iff (by decide)]

/-- **A tag ends where it did.** -/
theorem ending_crlf (before rest : List Char) :
    ending (Text.crlf before) (Text.crlf rest) = (ending before rest).map Ending.crlf := by
  fun_induction ending before rest with
  | case1 before => rfl
  | case2 before c rest hends =>
    obtain ⟨⟨tail, heq⟩, -⟩ := endsAt_iff.mp hends
    obtain ⟨rfl, rfl⟩ := List.cons.inj heq
    rw [← endsAt_crlf] at hends
    exact ending_here hends
  | case3 before c rest hends ih =>
    rw [crlf_append, crlf_singleton] at ih
    have hinside : Inside (Text.crlf before) (withReturn c) (Text.crlf rest) := by
      by_cases hc : c = '\n'
      · subst hc
        exact Inside.of_no_percent (List.forall_mem_cons.mpr
          ⟨by decide, List.forall_mem_singleton.mpr (by decide)⟩) _ _
      · rw [withReturn_of_ne hc]
        rw [← endsAt_crlf, crlf_cons_of_ne hc] at hends
        exact Inside.single (Bool.eq_false_of_not_eq_true hends)
    rw [crlf_cons, hinside, ih, Option.map_map, Option.map_map]
    rfl

theorem ending_opener_crlf (kind : TagKind) (rest : List Char) :
    ending kind.source (Text.crlf rest) = (ending kind.source rest).map Ending.crlf := by
  have hending := ending_crlf kind.source rest
  rwa [kind.crlf_source] at hending

/-! ## Places and texts -/

/-- **What other line breaks do to what is told of a text**: a carriage return goes in front of each
line feed of a text that is told, and a place moves by the line feeds in front of it. -/
def Rewrite.crlf (whole : List Char) : Rewrite :=
  ⟨toCrlf, fun place => place + breaksBefore whole place⟩

/-- The defect with other line breaks in the body it is about. -/
def Defect.crlf : Defect → Defect
  | .invalidName body => .invalidName (toCrlf body)
  | defect => defect

theorem Defect.message_crlf (defect : Defect) : defect.crlf.message = toCrlf defect.message := by
  cases defect with
  | unclosedTag => rfl
  | emptyOutput => rfl
  | codeTag => rfl
  | invalidName body =>
    have hbefore : toCrlf "'" = "'" := rfl
    have hbehind : toCrlf "' is not a valid field name" = "' is not a valid field name" := rfl
    simp only [Defect.crlf, Defect.message, toCrlf_append, hbefore, hbehind]

theorem Defect.expected_crlf (defect : Defect) : defect.crlf.expected = defect.expected := by
  cases defect <;> rfl

/-- An error is told of the defect that was told of. -/
theorem Rewrite.error_crlf {whole : List Char} {span moved : Span}
    (h : (Rewrite.crlf whole).span span = moved) (defect : Defect) :
    (Rewrite.crlf whole).error (defect.at span) = defect.crlf.at moved := by
  simp only [Rewrite.error, Defect.at, Defect.message_crlf, Defect.expected_crlf, h]
  rfl

/-! ## Judging a tag -/

theorem not_mem_of_isFieldName {name : List Char} (h : isFieldName name = true) : '\n' ∉ name :=
  fun hmem => absurd ((isNameChar_of_isFieldName h).2 '\n' hmem) (by decide)

theorem isFieldName_crlf (name : List Char) :
    isFieldName (Text.crlf name) = isFieldName name := by
  by_cases hbreak : '\n' ∈ name
  · have hfalse : ∀ {other : List Char}, '\n' ∈ other → isFieldName other = false := by
      intro other hmem
      exact Bool.eq_false_of_not_eq_true fun hname => not_mem_of_isFieldName hname hmem
    have hkept : '\n' ∈ Text.crlf name := List.mem_flatMap.mpr ⟨'\n', hbreak, by decide⟩
    rw [hfalse hbreak, hfalse hkept]
  · rw [crlf_eq_self hbreak]

section

variable {whole front rest : List Char}

theorem Rewrite.place_crlf (h : whole = front ++ rest) :
    (Rewrite.crlf whole).place (byteLength front) = byteLength (Text.crlf front) :=
  add_breaksBefore h

theorem Rewrite.span_crlf {content : List Char} (h : whole = front ++ (content ++ rest)) :
    (Rewrite.crlf whole).span ⟨byteLength front, byteLength front + byteLength content⟩ =
      ⟨byteLength (Text.crlf front),
        byteLength (Text.crlf front) + byteLength (Text.crlf content)⟩ := by
  rw [Rewrite.span, Rewrite.place_crlf h, ← byteLength_append,
    Rewrite.place_crlf (h.trans (List.append_assoc _ _ _).symm), crlf_append, byteLength_append]

/-- **A tag is judged as it was**, for the field it names and for what is wrong with it. -/
theorem Tag.judge_crlf {kind : TagKind} {body : List Char}
    (h : whole = front ++ (kind.source ++ (body ++ rest))) (stop newStop : Nat) (trims : Bool) :
    Tag.judge ⟨kind, Text.crlf body, ⟨byteLength (Text.crlf front), newStop⟩, trims⟩ =
      ((Tag.judge ⟨kind, body, ⟨byteLength front, stop⟩, trims⟩).map
        (Rewrite.crlf whole).segment).mapError Defect.crlf := by
  cases kind with
  | comment => rfl
  | code => rfl
  | output =>
    rw [Tag.judge_output, Tag.judge_output, trim_crlf, isFieldName_crlf]
    split
    next hname =>
      obtain ⟨right, -, hbody⟩ := exists_trim body
      have hsplit : whole = (front ++ TagKind.output.source ++ leadingBlanks body) ++
          (trim body ++ (right ++ rest)) := by
        rw [h]
        nth_rewrite 1 [hbody]
        simp only [List.append_assoc]
      have hspan := Rewrite.span_crlf hsplit
      simp only [crlf_append, byteLength_append, TagKind.crlf_source] at hspan
      simp only [Tag.reference, trim_crlf, leadingBlanks_crlf, Except.map, Except.mapError,
        Rewrite.segment, Rewrite.reference, hspan, crlf_eq_self (not_mem_of_isFieldName hname)]
    next hname =>
      rw [isEmpty_crlf]
      split
      next => rfl
      next =>
        show _ = Except.error (Defect.crlf (.invalidName (String.ofList (trim body))))
        rw [Defect.crlf, toCrlf, String.toList_ofList]

end

/-! ## Piece by piece -/

theorem dropLineBreak_crlf {cs : List Char} (h : '\r' ∉ cs) :
    dropLineBreak (Text.crlf cs) = Text.crlf (dropLineBreak cs) := by
  cases cs with
  | nil => rfl
  | cons c cs =>
    by_cases hc : c = '\n'
    · subst hc
      rfl
    · have hreturn : c ≠ '\r' := Ne.symm (List.ne_of_not_mem_cons h)
      have hkept : ∀ rest, dropLineBreak (c :: rest) = c :: rest := by
        intro rest
        unfold dropLineBreak
        split
        next heq => exact absurd (List.cons.inj heq).1 hreturn
        next heq => exact absurd (List.cons.inj heq).1 hc
        next => rfl
      rw [hkept, crlf_cons_of_ne hc, hkept]

theorem prepend_crlf (whole : List Char) (content : String) (segments : List Segment) :
    Segment.prepend (toCrlf content) (segments.map (Rewrite.crlf whole).segment) =
      (Segment.prepend content segments).map (Rewrite.crlf whole).segment := by
  by_cases hcontent : content = ""
  · rw [toCrlf_eq_empty_iff.mpr hcontent, hcontent, Segment.prepend_empty, Segment.prepend_empty]
  have hempty : ¬ content.isEmpty = true := by simpa using hcontent
  have hchanged : ¬ (toCrlf content).isEmpty = true := by
    simpa using toCrlf_eq_empty_iff.not.mpr hcontent
  cases segments with
  | nil =>
    simp only [Segment.prepend, List.map_nil, if_neg hempty, if_neg hchanged, List.map_cons]
    rfl
  | cons segment segments =>
    cases segment with
    | text next =>
      simp only [Segment.prepend, List.map_cons, Rewrite.segment, Rewrite.crlf, toCrlf_append]
    | field reference =>
      simp only [Segment.prepend, List.map_cons, Rewrite.segment, if_neg hempty, if_neg hchanged]
      rfl
    | comment =>
      simp only [Segment.prepend, List.map_cons, Rewrite.segment, if_neg hempty, if_neg hchanged]
      rfl

theorem not_mem_literal {token : Token} (h : '\r' ∉ token.source) : '\r' ∉ token.literal := by
  cases token with
  | escape => decide
  | opener kind => exact h
  | closer trims => exact h
  | lone delimiter => exact h
  | text run => exact h

section

variable {whole front : List Char}

/-- **A tag in both texts**: with `through` for all up to its end, what stands behind `through` in
one text stands behind `Text.crlf through` in the other, and the tag is judged alike. -/
theorem exists_through_crlf {kind : TagKind} {rest : List Char} {found : Ending}
    (h : whole = front ++ (kind.source ++ rest)) (hfound : ending kind.source rest = some found) :
    ∃ through, whole = through ++ found.rest ∧
      found.stop (byteLength front + byteLength kind.source) = byteLength through ∧
      found.crlf.stop (byteLength (Text.crlf front) + byteLength kind.source) =
        byteLength (Text.crlf through) ∧
      ∀ stop newStop,
        Tag.judge ⟨kind, found.crlf.body, ⟨byteLength (Text.crlf front), newStop⟩,
            found.crlf.trims⟩ =
          ((Tag.judge ⟨kind, found.body, ⟨byteLength front, stop⟩, found.trims⟩).map
            (Rewrite.crlf whole).segment).mapError Defect.crlf := by
  have hcloser : Text.crlf ['%', '>'] = ['%', '>'] := rfl
  refine ⟨front ++ (kind.source ++ (found.inner ++ ['%', '>'])), ?_, ?_, ?_, fun stop newStop => ?_⟩
  · rw [h, ending_eq_append hfound]
    simp only [List.append_assoc, List.cons_append, List.nil_append]
  · simp only [Ending.stop, byteLength_append, Nat.add_assoc]
  · simp only [Ending.stop, Ending.crlf, crlf_append, byteLength_append, kind.crlf_source, hcloser,
      Nat.add_assoc]
  · rw [Ending.source_eq hfound] at h
    rw [Ending.body_crlf, Ending.trims_crlf]
    exact Tag.judge_crlf h stop newStop found.trims

/-- **The segments are the old ones**, with their texts and places changed. -/
theorem readFrom_crlf {cs : List Char} (h : whole = front ++ cs) (hreturn : '\r' ∉ cs)
    (trims : Bool) :
    readFrom trims (byteLength (Text.crlf front)) (Text.crlf cs) =
      (readFrom trims (byteLength front) cs).map (List.map (Rewrite.crlf whole).segment) := by
  induction cs using Piece.chain_induction generalizing front trims with
  | nil => rfl
  | literal token rest hfits hopener ih =>
    rw [List.mem_append, not_or] at hreturn
    have hbehind := ih (h.trans (List.append_assoc _ _ _).symm) hreturn.2 false
    have hkept : (if trims then dropLineBreak token.crlf.literal else token.crlf.literal) =
        Text.crlf (if trims then dropLineBreak token.literal else token.literal) := by
      rw [Token.literal_crlf, dropLineBreak_crlf (not_mem_literal hreturn.1)]
      split <;> rfl
    rw [crlf_append, ← Token.source_crlf,
      readFrom_literal hfits.crlf (Token.crlf_ne_opener hopener), readFrom_literal hfits hopener,
      hkept, Token.source_crlf, ← byteLength_append, ← crlf_append, hbehind, byteLength_append,
      Option.map_map, Option.map_map]
    congr 1
    funext segments
    have hprepend := prepend_crlf whole
      (String.ofList (if trims then dropLineBreak token.literal else token.literal)) segments
    rwa [toCrlf, String.toList_ofList] at hprepend
  | unclosed kind rest hfits hnone =>
    have hending := ending_opener_crlf kind rest
    rw [hnone] at hending
    rw [crlf_append, kind.crlf_source, readFrom_unclosed hfits.crlf hending,
      readFrom_unclosed hfits hnone, Option.map_none]
  | tag kind rest found hfits hfound ih =>
    have hending := ending_opener_crlf kind rest
    rw [hfound] at hending
    obtain ⟨through, hwhole, hstop, hmoved, hjudge⟩ := exists_through_crlf h hfound
    have hrest : '\r' ∉ found.rest := fun hmem => by
      rw [ending_eq_append hfound] at hreturn
      exact hreturn (List.mem_append_right _ (List.mem_append_right _
        (List.mem_cons_of_mem _ (List.mem_cons_of_mem _ hmem))))
    have hbehind := ih hwhole hrest found.trims
    have hboth := hjudge (found.stop (byteLength front + byteLength kind.source))
      (found.crlf.stop (byteLength (Text.crlf front) + byteLength kind.source))
    rw [crlf_append, kind.crlf_source]
    cases hold : Tag.judge ⟨kind, found.body, ⟨byteLength front,
        found.stop (byteLength front + byteLength kind.source)⟩, found.trims⟩ with
    | ok segment =>
      rw [hold] at hboth
      rw [readFrom_tag hfits.crlf hending hboth, readFrom_tag hfits hfound hold, hstop, hmoved,
        Ending.trims_crlf]
      show (readFrom _ _ (Text.crlf found.rest)).map _ = _
      rw [hbehind, Option.map_map, Option.map_map]
      rfl
    | error defect =>
      rw [hold] at hboth
      rw [readFrom_tag_error hfits.crlf hending hboth, readFrom_tag_error hfits hfound hold,
        Option.map_none]

/-- **The faults are the old ones**, with their places changed and the bodies they are about. -/
theorem faultsFrom_crlf {cs : List Char} (h : whole = front ++ cs) :
    faultsFrom (byteLength (Text.crlf front)) (Text.crlf cs) =
      (faultsFrom (byteLength front) cs).map (List.map (Rewrite.crlf whole).error) := by
  induction cs using Piece.chain_induction generalizing front with
  | nil => rfl
  | literal token rest hfits hopener ih =>
    have hbehind := ih (h.trans (List.append_assoc _ _ _).symm)
    rw [crlf_append, ← Token.source_crlf,
      faultsFrom_literal hfits.crlf (Token.crlf_ne_opener hopener),
      faultsFrom_literal hfits hopener, Token.source_crlf, ← byteLength_append, ← crlf_append,
      hbehind, byteLength_append]
  | unclosed kind rest hfits hnone =>
    have hending := ending_opener_crlf kind rest
    rw [hnone] at hending
    rw [crlf_append, kind.crlf_source, faultsFrom_unclosed hfits.crlf hending,
      faultsFrom_unclosed hfits hnone, Option.map_none]
  | tag kind rest found hfits hfound ih =>
    have hending := ending_opener_crlf kind rest
    rw [hfound] at hending
    obtain ⟨through, hwhole, hstop, hmoved, hjudge⟩ := exists_through_crlf h hfound
    have hbehind := ih hwhole
    have hboth := hjudge (found.stop (byteLength front + byteLength kind.source))
      (found.crlf.stop (byteLength (Text.crlf front) + byteLength kind.source))
    rw [crlf_append, kind.crlf_source]
    cases hold : Tag.judge ⟨kind, found.body, ⟨byteLength front,
        found.stop (byteLength front + byteLength kind.source)⟩, found.trims⟩ with
    | ok segment =>
      rw [hold] at hboth
      rw [faultsFrom_tag hfits.crlf hending hboth, faultsFrom_tag hfits hfound hold, hstop, hmoved]
      exact hbehind
    | error defect =>
      rw [hold] at hboth
      have hspan : (Rewrite.crlf whole).span ⟨byteLength front, byteLength through⟩ =
          ⟨byteLength (Text.crlf front), byteLength (Text.crlf through)⟩ := by
        rw [Rewrite.span, Rewrite.place_crlf h, Rewrite.place_crlf hwhole]
      rw [faultsFrom_tag_error hfits.crlf hending hboth, faultsFrom_tag_error hfits hfound hold,
        hstop, hmoved, ← Rewrite.error_crlf hspan]
      show (faultsFrom _ (Text.crlf found.rest)).map _ = _
      rw [hbehind, Option.map_map, Option.map_map]
      rfl

end

/-! ## The whole text -/

/-- **A text without carriage returns is read alike with other line breaks**: it parses when it did,
to the same fields and comments and to texts with the line breaks changed, and otherwise with the
same errors. Every place is moved by the line breaks in front of it. -/
theorem parse_crlf {text : String} (h : '\r' ∉ text.toList) :
    parse (toCrlf text) = (Rewrite.crlf text.toList).outcome (parse text) := by
  have hwhole : text.toList = [] ++ text.toList := rfl
  have hend : text.toList = text.toList ++ [] := (List.append_nil _).symm
  have hspan : (Rewrite.crlf text.toList).span
      ⟨0 + byteLength text.toList, 0 + byteLength text.toList⟩ =
        ⟨0 + byteLength (Text.crlf text.toList), 0 + byteLength (Text.crlf text.toList)⟩ := by
    simp only [Rewrite.span, Nat.zero_add, Rewrite.place_crlf hend]
  have hparse := parseFrom_map (faultsFrom_crlf hwhole) (readFrom_crlf hwhole h false)
    (Rewrite.error_crlf hspan .unclosedTag).symm
  rw [parse_eq_parseFrom, parse_eq_parseFrom, toCrlf, String.toList_ofList]
  show (parseFrom false (byteLength (Text.crlf [])) _).map _ = _
  rw [hparse]
  show _ = (Rewrite.crlf text.toList).outcome ((parseFrom false (byteLength []) _).map _)
  cases parseFrom false (byteLength []) text.toList <;> rfl

end Doxyfile.Template
