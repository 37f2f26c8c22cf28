import Doxyfile.Proofs.Template.Cuts
import Doxyfile.Proofs.Template.Writing

/-!
# Joined texts

What two texts are read as decides what they are read as when one stands behind the other, if the
second can be put behind any text (`Separate`). From the pieces of the whole it goes two ways. The
errors of a text without an open tag are those of its pieces, so they are put one behind the other
(`errors_append`). The segments are too, but literal text on both sides of the cut becomes one
segment (`Segment.join`, `parse_append`).

Any text at all can be put behind a comment, since there is a cut behind its closer
(`parse_comment`).
-/

namespace Doxyfile

/-! ## Moving along a text -/

/-- The reference moved towards the end of the text. -/
def Reference.shift (distance : Nat) (reference : Reference) : Reference :=
  { reference with span := reference.span.shift distance }

/-- The segment moved towards the end of the text. -/
def Segment.shift (distance : Nat) : Segment → Segment
  | .text content => .text content
  | .field reference => .field (reference.shift distance)
  | .comment => .comment

theorem Segment.shift_shift (first second : Nat) (segment : Segment) :
    (segment.shift first).shift second = segment.shift (first + second) := by
  cases segment with
  | text content => rfl
  | comment => rfl
  | field reference => simp only [shift, Reference.shift, Span.shift, Nat.add_assoc]

theorem Segment.prepend_map_shift (distance : Nat) (content : String) (segments : List Segment) :
    (Segment.prepend content segments).map (Segment.shift distance) =
      Segment.prepend content (segments.map (Segment.shift distance)) := by
  cases segments with
  | nil =>
    simp only [prepend, List.map_nil]
    split <;> rfl
  | cons segment segments =>
    cases segment with
    | text next => rfl
    | field reference =>
      simp only [prepend, List.map_cons, shift]
      split <;> rfl
    | comment =>
      simp only [prepend, List.map_cons, shift]
      split <;> rfl

/-! ## Segments behind segments -/

/-- **Segments joined**: a text at the end of the first and a text at the head of the second become
one. -/
def Segment.join : List Segment → List Segment → List Segment
  | [.text first], .text next :: others => .text (first ++ next) :: others
  | [], others => others
  | segment :: segments, others => segment :: join segments others

theorem Segment.join_cons {segment : Segment} (h : ∀ content, segment ≠ .text content)
    (segments others : List Segment) :
    join (segment :: segments) others = segment :: join segments others := by
  rw [join]
  intro first _ _ _ hsegment
  exact absurd hsegment (h first)

/-- **In front of anything but text, joining is appending.** -/
theorem Segment.join_of_head? {others : List Segment}
    (h : ∀ content, others.head? ≠ some (.text content)) (segments : List Segment) :
    join segments others = segments ++ others := by
  fun_induction join segments others with
  | case1 first next rest => exact absurd rfl (h next)
  | case2 others => rfl
  | case3 segment segments others _ ih => rw [ih h, List.cons_append]

theorem Segment.join_prepend (content : String) (segments others : List Segment) :
    join (prepend content segments) others = prepend content (join segments others) := by
  by_cases hcontent : content = ""
  · rw [hcontent, prepend_empty, prepend_empty]
  have hempty : ¬ content.isEmpty = true := by simpa using hcontent
  cases segments with
  | nil =>
    rw [prepend_of_head? (fun _ => by simp), if_neg hempty]
    cases others with
    | nil => simp [join, prepend, hcontent]
    | cons other others => cases other <;> simp [join, prepend, hcontent]
  | cons segment segments =>
    cases segment with
    | field reference => simp [join, prepend, hcontent]
    | comment => simp [join, prepend, hcontent]
    | text next =>
      cases segments with
      | cons other segments => rfl
      | nil =>
        cases others with
        | nil => rfl
        | cons other others =>
          cases other with
          | text last => simp only [prepend, join, String.append_assoc]
          | field reference => rfl
          | comment => rfl

end Doxyfile

namespace Doxyfile.Template

/-- The error moved towards the end of the text. -/
def SyntaxError.shift (distance : Nat) (error : SyntaxError) : SyntaxError :=
  { error with span := error.span.shift distance }

/-! ## Errors -/

/-- Everything that is told of a text when it is parsed; nothing of one that parses. -/
def errors (text : String) : List SyntaxError :=
  match parse text with
  | .ok _ => []
  | .error found => found

/-- **Every tag of the text is closed.** -/
def Closed (text : String) : Prop :=
  (Piece.ofLexemes (lex text)).isSome = true

instance (text : String) : Decidable (Closed text) :=
  inferInstanceAs (Decidable (_ = true))

theorem closed_iff_exists {text : String} :
    Closed text ↔ ∃ pieces, Piece.ofChars 0 text.toList = some pieces :=
  Option.isSome_iff_exists

/-- **The errors of a text without an open tag are those of its pieces.** -/
theorem errors_eq_filterMap {text : String} {pieces : List Piece}
    (h : Piece.ofChars 0 text.toList = some pieces) :
    errors text = pieces.filterMap Piece.error? := by
  have hlex : Piece.ofLexemes (lex text) = some pieces := h
  unfold errors parse
  rw [hlex]
  dsimp only
  cases pieces.filterMap Piece.error? <;> rfl

theorem Tag.reference_shift (distance : Nat) (tag : Tag) :
    (tag.shift distance).reference = tag.reference.shift distance := by
  simp only [Tag.reference, Tag.shift, Reference.shift, Span.shift, Nat.add_right_comm _ distance]

theorem Tag.judge_output (body : List Char) (span : Span) (trims : Bool) :
    Tag.judge ⟨.output, body, span, trims⟩ =
      if isFieldName (Text.trim body) then .ok (.field (Tag.reference ⟨.output, body, span, trims⟩))
      else if (Text.trim body).isEmpty then .error .emptyOutput
      else .error (.invalidName (String.ofList (Text.trim body))) :=
  rfl

/-- **A tag is judged alike wherever it stands.** -/
theorem Tag.judge_shift (distance : Nat) (tag : Tag) :
    (tag.shift distance).judge = tag.judge.map (Segment.shift distance) := by
  obtain ⟨kind, body, span, trims⟩ := tag
  cases kind with
  | comment => rfl
  | code => rfl
  | output =>
    have hreference : Tag.reference ⟨.output, body, span.shift distance, trims⟩ = _ :=
      Tag.reference_shift distance ⟨.output, body, span, trims⟩
    show Tag.judge ⟨.output, body, span.shift distance, trims⟩ = _
    rw [Tag.judge_output, Tag.judge_output, hreference]
    split
    · rfl
    · split <;> rfl

theorem Tag.judge_ne_text (tag : Tag) (content : String) : tag.judge ≠ .ok (.text content) := by
  obtain ⟨kind, body, span, trims⟩ := tag
  cases kind with
  | comment => exact fun h => nomatch h
  | code => exact fun h => nomatch h
  | output =>
    rw [Tag.judge_output]
    split
    · exact fun h => nomatch h
    · split <;> exact fun h => nomatch h

theorem Piece.error?_shift (distance : Nat) (piece : Piece) :
    (piece.shift distance).error? = piece.error?.map (SyntaxError.shift distance) := by
  cases piece with
  | literal content => rfl
  | tag tag =>
    simp only [shift, error?, Tag.judge_shift]
    cases tag.judge <;> rfl

/-- **The errors of joined texts** are those of the first and then those of the second. -/
theorem errors_append {first second : String} (hfirst : Closed first) (hsecond : Closed second)
    (hseparate : Separate second.toList) :
    errors (first ++ second) = errors first ++
      (errors second).map (SyntaxError.shift (Text.byteLength first.toList)) := by
  obtain ⟨pieces, hpieces⟩ := closed_iff_exists.mp hfirst
  obtain ⟨others, hothers⟩ := closed_iff_exists.mp hsecond
  have hshift := Piece.ofChars_shift 0 (Text.byteLength first.toList) second.toList
  have hjoined : Piece.ofChars 0 (first ++ second).toList =
      some (pieces ++ others.map (Piece.shift (Text.byteLength first.toList))) := by
    rw [String.toList_append, Piece.ofChars_append hpieces hseparate, hshift, hothers]
    rfl
  have hmoved : Piece.error? ∘ Piece.shift (Text.byteLength first.toList) =
      fun piece => (Piece.error? piece).map (SyntaxError.shift (Text.byteLength first.toList)) :=
    funext (Piece.error?_shift _)
  rw [errors_eq_filterMap hjoined, errors_eq_filterMap hpieces, errors_eq_filterMap hothers,
    List.filterMap_append, List.filterMap_map, hmoved, List.map_filterMap]

/-! ## Segments -/

/-- **What characters are read as** from byte `start` on, behind a closer that trims or not: their
segments, none when a tag among them is open or found wanting. -/
def readFrom (trims : Bool) (start : Nat) (cs : List Char) : Option (List Segment) :=
  (Piece.ofChars start cs).bind (Piece.segments? trims)

theorem parse_eq_ok_iff_readFrom {text : String} {template : Template} :
    parse text = .ok template ↔ readFrom false 0 text.toList = some template.segments :=
  parse_eq_ok_iff_segments?

theorem readFrom_literal {token : Token} {rest : List Char} (h : token.Fits rest)
    (hopener : ∀ kind, token ≠ .opener kind) (trims : Bool) (start : Nat) :
    readFrom trims start (token.source ++ rest) =
      (readFrom false (start + Text.byteLength token.source) rest).map
        (Segment.prepend (String.ofList
          (if trims then dropLineBreak token.literal else token.literal))) := by
  unfold readFrom
  rw [Piece.ofChars_literal h hopener, Option.bind_map, Option.map_bind]
  refine Option.bind_congr fun pieces _ => ?_
  exact Piece.segments?_literal trims token.literal pieces

theorem readFrom_unclosed {kind : TagKind} {rest : List Char} (h : (Token.opener kind).Fits rest)
    (hnone : ending kind.source rest = none) (trims : Bool) (start : Nat) :
    readFrom trims start (kind.source ++ rest) = none := by
  rw [readFrom, Piece.ofChars_unclosed h hnone, Option.bind_none]

/-- **A tag is read as the segment it stands for**, in front of those behind it. -/
theorem readFrom_tag_iff {kind : TagKind} {rest : List Char} {found : Ending}
    (h : (Token.opener kind).Fits rest) (hfound : ending kind.source rest = some found)
    {trims : Bool} {start : Nat} {segments : List Segment} :
    readFrom trims start (kind.source ++ rest) = some segments ↔
      ∃ segment others,
        Tag.judge ⟨kind, found.body, ⟨start, found.stop (start + Text.byteLength kind.source)⟩,
          found.trims⟩ = .ok segment ∧
        readFrom found.trims (found.stop (start + Text.byteLength kind.source)) found.rest =
          some others ∧
        segments = segment :: others := by
  constructor
  · intro hread
    obtain ⟨pieces, hpieces, hsegments⟩ := Option.bind_eq_some_iff.mp hread
    rw [Piece.ofChars_tag h hfound] at hpieces
    obtain ⟨behind, hbehind, rfl⟩ := Option.map_eq_some_iff.mp hpieces
    cases hjudge : Tag.judge ⟨kind, found.body,
        ⟨start, found.stop (start + Text.byteLength kind.source)⟩, found.trims⟩ with
    | error defect =>
      rw [Piece.segments?_tag_error hjudge] at hsegments
      cases hsegments
    | ok segment =>
      rw [Piece.segments?_tag_ok hjudge] at hsegments
      obtain ⟨others, hothers, rfl⟩ := Option.map_eq_some_iff.mp hsegments
      exact ⟨segment, others, rfl, Option.bind_eq_some_iff.mpr ⟨behind, hbehind, hothers⟩, rfl⟩
  · rintro ⟨segment, others, hjudge, hread, rfl⟩
    obtain ⟨behind, hbehind, hothers⟩ := Option.bind_eq_some_iff.mp hread
    rw [readFrom, Piece.ofChars_tag h hfound, hbehind]
    show Piece.segments? trims (.tag _ :: behind) = _
    rw [Piece.segments?_tag_ok hjudge]
    exact congrArg (Option.map _) hothers

theorem Piece.segments?_shift (trims : Bool) (distance : Nat) (pieces : List Piece) :
    Piece.segments? trims (pieces.map (Piece.shift distance)) =
      (Piece.segments? trims pieces).map (List.map (Segment.shift distance)) := by
  induction pieces generalizing trims with
  | nil => rfl
  | cons piece pieces ih =>
    cases piece with
    | literal content =>
      show Piece.segments? trims (.literal content :: pieces.map (Piece.shift distance)) = _
      rw [Piece.segments?_literal, Piece.segments?_literal, ih, Option.map_map, Option.map_map]
      congr 1
      funext segments
      exact (Segment.prepend_map_shift distance _ segments).symm
    | tag tag =>
      have hmoved := Tag.judge_shift distance tag
      show Piece.segments? trims (.tag (tag.shift distance) :: pieces.map (Piece.shift distance)) =
        _
      cases hjudge : tag.judge with
      | ok segment =>
        rw [hjudge] at hmoved
        rw [Piece.segments?_tag_ok hjudge, Piece.segments?_tag_ok hmoved, Option.map_map]
        show (Piece.segments? tag.trims _).map _ = _
        rw [ih, Option.map_map]
        rfl
      | error defect =>
        rw [hjudge] at hmoved
        rw [Piece.segments?_tag_error hjudge, Piece.segments?_tag_error hmoved, Option.map_none]

/-- **Characters that stand further on are read alike**, with all places moved. -/
theorem readFrom_shift (trims : Bool) (start distance : Nat) (cs : List Char) :
    readFrom trims (start + distance) cs =
      (readFrom trims start cs).map (List.map (Segment.shift distance)) := by
  unfold readFrom
  rw [Piece.ofChars_shift, Option.bind_map, Option.map_bind]
  exact Option.bind_congr fun pieces _ => Piece.segments?_shift trims distance pieces

/-- Behind pieces without a fault, others are read as they are behind the last of the pieces. -/
theorem Piece.segments?_append {trims : Bool} {pieces : List Piece} {segments : List Segment}
    (h : Piece.segments? trims pieces = some segments) :
    ∃ after, ∀ others, Piece.segments? trims (pieces ++ others) =
      (Piece.segments? after others).map (Segment.join segments) := by
  induction pieces generalizing trims segments with
  | nil =>
    cases h
    exact ⟨trims, fun others => (congrFun Option.map_id _).symm⟩
  | cons piece pieces ih =>
    cases piece with
    | literal content =>
      rw [Piece.segments?_literal] at h
      obtain ⟨behind, hbehind, rfl⟩ := Option.map_eq_some_iff.mp h
      -- only the last of the pieces can trim what is behind them
      obtain ⟨after, hafter⟩ := ih hbehind
      refine ⟨after, fun others => ?_⟩
      rw [List.cons_append, Piece.segments?_literal, hafter, Option.map_map]
      congr 1
      funext next
      exact (Segment.join_prepend _ behind next).symm
    | tag tag =>
      cases hjudge : tag.judge with
      | error defect =>
        rw [Piece.segments?_tag_error hjudge] at h
        cases h
      | ok segment =>
        rw [Piece.segments?_tag_ok hjudge] at h
        obtain ⟨behind, hbehind, rfl⟩ := Option.map_eq_some_iff.mp h
        obtain ⟨after, hafter⟩ := ih hbehind
        refine ⟨after, fun others => ?_⟩
        have hsegment : ∀ content, segment ≠ .text content := by
          rintro content rfl
          exact Tag.judge_ne_text tag content hjudge
        rw [List.cons_append, Piece.segments?_tag_ok hjudge, hafter, Option.map_map]
        congr 1
        funext next
        exact (Segment.join_cons hsegment behind next).symm

/-- A closer that trims takes nothing from what can be put behind any text. -/
theorem readFrom_separate {cs : List Char} (h : Separate cs) (trims : Bool) (start : Nat) :
    readFrom trims start cs = readFrom false start cs := by
  cases trims with
  | false => rfl
  | true =>
    have hnone : Direct.lineBreak cs = [] := by
      unfold Direct.lineBreak
      split
      next => exact absurd (h '\r' rfl) (by decide)
      next => exact absurd (h '\n' rfl) (by decide)
      next => rfl
    have htrims := Piece.segments?_trims start cs
    rwa [hnone, List.length_nil, List.drop_zero, Text.byteLength_nil, Nat.add_zero] at htrims

/-- **What joined texts are read as**: the segments of both, joined. -/
theorem readFrom_append {trims : Bool} {start : Nat} {front next : List Char}
    {segments : List Segment} (h : readFrom trims start front = some segments)
    (hnext : Separate next) :
    readFrom trims start (front ++ next) =
      (readFrom false (start + Text.byteLength front) next).map (Segment.join segments) := by
  obtain ⟨pieces, hpieces, hsegments⟩ := Option.bind_eq_some_iff.mp h
  obtain ⟨after, hafter⟩ := Piece.segments?_append hsegments
  rw [← readFrom_separate hnext after]
  unfold readFrom
  rw [Piece.ofChars_append hpieces hnext, Option.bind_map, Option.map_bind]
  exact Option.bind_congr fun others _ => hafter others

/-- **Joined texts parse to their segments, joined**, with those of the second moved. -/
theorem parse_append {first second : String} {left right : Template}
    (hfirst : parse first = .ok left) (hsecond : parse second = .ok right)
    (hseparate : Separate second.toList) :
    parse (first ++ second) = .ok ⟨Segment.join left.segments
      (right.segments.map (Segment.shift (Text.byteLength first.toList)))⟩ := by
  rw [parse_eq_ok_iff_readFrom] at hfirst hsecond ⊢
  rw [String.toList_append, readFrom_append hfirst hseparate, readFrom_shift, hsecond]
  rfl

/-- The text of a comment tag. -/
def comment (content : List Char) : String :=
  String.ofList (Written.comment content).source

/-- **A comment is read as one wherever it stands**, and what is behind it as if it stood alone. -/
theorem parse_comment {content : List Char} (h : Written.Closable content) {second : String}
    {right : Template} (hsecond : parse second = .ok right) :
    parse (comment content ++ second) = .ok ⟨.comment ::
      right.segments.map (Segment.shift (Text.byteLength (comment content).toList))⟩ := by
  have hcomment : TagKind.comment ≠ .code := by decide
  have hending : ending TagKind.comment.source (content ++ '%' :: '>' :: second.toList) =
      some ⟨content, second.toList⟩ := h.ending_eq hcomment [] second.toList
  have hfits : (Token.opener .comment).Fits (content ++ '%' :: '>' :: second.toList) := trivial
  have hsource : (comment content ++ second).toList =
      TagKind.comment.source ++ (content ++ '%' :: '>' :: second.toList) := by
    simp only [comment, Written.source, String.toList_append, String.toList_ofList,
      TagKind.source, List.append_assoc, List.cons_append, List.nil_append]
  have hstop : Ending.stop (0 + Text.byteLength TagKind.comment.source) ⟨content, second.toList⟩ =
      0 + Text.byteLength (comment content).toList := by
    simp only [comment, Written.source, String.toList_ofList, Ending.stop, TagKind.source,
      Text.byteLength_append]
    omega
  rw [parse_eq_ok_iff_readFrom] at hsecond ⊢
  rw [hsource, readFrom_tag_iff hfits hending]
  refine ⟨.comment, _, rfl, ?_, rfl⟩
  rw [hstop, h.trims_eq_false, readFrom_shift, hsecond]
  rfl

/-- **A comment between two texts is a segment between theirs**, and what it holds only moves those
behind it. -/
theorem parse_append_comment {first second : String} {left right : Template}
    (hfirst : parse first = .ok left) (hsecond : parse second = .ok right) {content : List Char}
    (h : Written.Closable content) :
    parse (first ++ comment content ++ second) = .ok ⟨left.segments ++ .comment ::
      right.segments.map (Segment.shift (Text.byteLength (first ++ comment content).toList))⟩ := by
  have hseparate : Separate (comment content ++ second).toList := by
    rw [comment, String.toList_append, String.toList_ofList]
    exact fun c hc => .inl (Option.some.inj hc).symm
  have hmoved : ∀ segment, Segment.shift (Text.byteLength first.toList)
      (Segment.shift (Text.byteLength (comment content).toList) segment) =
        Segment.shift (Text.byteLength (first ++ comment content).toList) segment := by
    intro segment
    rw [String.toList_append, Text.byteLength_append, Nat.add_comm, Segment.shift_shift]
  rw [String.append_assoc, parse_append hfirst (parse_comment h hsecond) hseparate, List.map_cons,
    Segment.join_of_head? (fun _ => by simp [Segment.shift]), List.map_map]
  simp only [Function.comp_def, hmoved]
  rfl

end Doxyfile.Template
