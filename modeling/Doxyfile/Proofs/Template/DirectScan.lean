import Doxyfile.Proofs.Template.TagEnding
import Doxyfile.Template.Parse

/-!
# Reading a template without tokens

`Template.parse` goes through tokens, pieces and segments. `Direct.scan` reads the same language in
one pass over the characters, with nothing between them and the segments: it copies literal
characters, knows the three openers and the escape, looks for the ending of a tag at the characters
themselves (`ending`) and skips a line break behind a closer that trims.

`parse_eq_ok_iff` says that both read the same segments of every text, so they refuse the same ones.
`Piece.segments?` stands between them: what the pieces of a text come to when none of its tags is
found wanting. Nothing is said here of the errors of a text that is refused.
-/

namespace Doxyfile

/-! ## Literal text in front of segments -/

/-- In front of anything but text, literal text is a segment of its own, or none if it is empty. -/
theorem Segment.prepend_of_head? {segments : List Segment}
    (h : ∀ content, segments.head? ≠ some (.text content)) (content : String) :
    Segment.prepend content segments =
      if content.isEmpty then segments else .text content :: segments := by
  unfold Segment.prepend
  split
  next next others => exact absurd rfl (h next)
  next => rfl

@[simp] theorem Segment.prepend_empty (segments : List Segment) :
    Segment.prepend "" segments = segments := by
  unfold Segment.prepend
  split
  next => rw [String.empty_append]
  next => rfl

/-- **Literal text can be put in front in two parts.** -/
theorem Segment.prepend_append (first second : String) (segments : List Segment) :
    Segment.prepend (first ++ second) segments =
      Segment.prepend first (Segment.prepend second segments) := by
  by_cases hsecond : second = ""
  · rw [hsecond, String.append_empty, Segment.prepend_empty]
  · by_cases htext : ∃ content others, segments = .text content :: others
    · obtain ⟨content, others, rfl⟩ := htext
      simp only [Segment.prepend, String.append_assoc]
    · have hhead : ∀ content, segments.head? ≠ some (.text content) := by
        intro content hc
        obtain ⟨others, rfl⟩ := List.head?_eq_some_iff.mp hc
        exact htext ⟨content, others, rfl⟩
      have hboth : first ++ second ≠ "" := fun h => hsecond (String.append_eq_empty_iff.mp h).2
      rw [Segment.prepend_of_head? hhead, Segment.prepend_of_head? hhead,
        if_neg (by simpa using hboth), if_neg (by simpa using hsecond)]
      rfl

end Doxyfile

namespace Doxyfile.Template

/-! ## The direct scan -/

namespace Direct

/-- The one line break that a text starts with, if it does. -/
def lineBreak : List Char → List Char
  | '\r' :: '\n' :: _ => ['\r', '\n']
  | '\n' :: _ => ['\n']
  | _ => []

/-- The line break that is skipped behind an ending: there is one only behind a closer with a
hyphen. -/
def skipped (found : Ending) : List Char :=
  if found.trims then lineBreak found.rest else []

/-- The literal characters since the last tag, as a segment; none when there are no characters. -/
def flush (run : List Char) : List Segment :=
  if run.isEmpty then [] else [.text (String.ofList run)]

/-- The reference of an output tag with this body, if the body without the blanks at its two ends is
a field name. `before` is all that stands in front of the body, and the name starts at the body's
first character that is no blank. -/
def reference? (before body : List Char) : Option Reference :=
  let name := Text.trim body
  let start := Text.byteLength (before ++ body.takeWhile Text.isBlank)
  if isFieldName name then some ⟨String.ofList name, ⟨start, start + Text.byteLength name⟩⟩
  else none

/-- **The direct scan** of the characters that stand behind `before`, with `run` for the literal
characters since the last tag. -/
def segments (before run : List Char) : List Char → Option (List Segment)
  | [] => some (flush run)
  | '<' :: '%' :: '%' :: rest => segments (before ++ ['<', '%', '%']) (run ++ ['<', '%']) rest
  | '<' :: '%' :: '=' :: rest =>
    let front := before ++ ['<', '%', '=']
    match _h : ending front rest with
    | none => none
    | some found =>
      match reference? front found.body with
      | none => none
      | some reference =>
        (segments (front ++ found.inner ++ ['%', '>'] ++ skipped found) []
          (found.rest.drop (skipped found).length)).map (flush run ++ .field reference :: ·)
  | '<' :: '%' :: '#' :: rest =>
    let front := before ++ ['<', '%', '#']
    match _h : ending front rest with
    | none => none
    | some found =>
      (segments (front ++ found.inner ++ ['%', '>'] ++ skipped found) []
        (found.rest.drop (skipped found).length)).map (flush run ++ .comment :: ·)
  | '<' :: '%' :: _ => none
  | c :: rest => segments (before ++ [c]) (run ++ [c]) rest
termination_by rest => rest.length
decreasing_by
  all_goals simp only [List.length_cons, List.length_drop]
  all_goals try have := ending_length _h
  all_goals omega

/-- The segments of a text as the direct scan reads them. -/
def scan (text : String) : Option (List Segment) :=
  segments [] [] text.toList

/-! ## The scan over whole tokens -/

theorem segments_char {c : Char} {rest : List Char} (h : c ≠ '<' ∨ rest.head? ≠ some '%')
    (before run : List Char) :
    segments before run (c :: rest) = segments (before ++ [c]) (run ++ [c]) rest := by
  rw [segments]
  all_goals
    rintro tail rfl rfl
    simp at h

theorem segments_run {front : List Char} (h : '<' ∉ front) (before run rest : List Char) :
    segments before run (front ++ rest) = segments (before ++ front) (run ++ front) rest := by
  induction front generalizing before run with
  | nil => rw [List.append_nil, List.append_nil, List.nil_append]
  | cons c cs ih =>
    have hc : c ≠ '<' := fun heq => h (heq ▸ List.mem_cons_self)
    have hcs : '<' ∉ cs := fun hmem => h (List.mem_cons_of_mem c hmem)
    rw [List.cons_append, segments_char (.inl hc), ih hcs]
    simp only [List.append_assoc, List.cons_append, List.nil_append]

/-- **A token that opens no tag adds to the literal characters what it stands for.** -/
theorem segments_literal {token : Token} {rest : List Char} (h : token.Fits rest)
    (hopener : ∀ kind, token ≠ .opener kind) (before run : List Char) :
    segments before run (token.source ++ rest) =
      segments (before ++ token.source) (run ++ token.literal) rest := by
  cases token with
  | opener kind => exact absurd rfl (hopener kind)
  | escape =>
    show segments before run ('<' :: '%' :: '%' :: rest) = _
    rw [segments]
    rfl
  | closer trims => cases trims <;> exact segments_run (by decide) before run rest
  | lone delimiter =>
    cases delimiter with
    | less => exact segments_char (.inr h) before run
    | percent => exact segments_char (.inl (by decide)) before run
    | hyphen => exact segments_char (.inl (by decide)) before run
  | text run' =>
    refine segments_run (fun hless => ?_) before run rest
    exact absurd (h.2.1 '<' hless) (by decide)

end Direct

/-! ## The segments of pieces -/

/-- The segments that pieces come to, when no tag among them is found wanting. -/
def Piece.segments? (trims : Bool) (pieces : List Piece) : Option (List Segment) :=
  if pieces.filterMap Piece.error? = [] then some (assemble trims pieces) else none

/-- **A text parses to the segments of its pieces.** -/
theorem parse_eq_ok_iff_segments? {text : String} {template : Template} :
    parse text = .ok template ↔
      (Piece.ofChars 0 text.toList).bind (Piece.segments? false) = some template.segments := by
  obtain ⟨segments⟩ := template
  have hlex : Piece.ofChars 0 text.toList = Piece.ofLexemes (lex text) := rfl
  rw [hlex]
  unfold parse Piece.segments?
  cases Piece.ofLexemes (lex text) with
  | none => simp only [Option.bind_none, reduceCtorEq]
  | some pieces =>
    simp only [Option.bind_some]
    cases pieces.filterMap Piece.error? with
    | nil => simp only [Except.ok.injEq, Template.mk.injEq, if_true, Option.some.injEq]
    | cons error errors => simp only [reduceCtorEq, if_false]

theorem Piece.segments?_literal (trims : Bool) (content : List Char) (pieces : List Piece) :
    Piece.segments? trims (.literal content :: pieces) =
      (Piece.segments? false pieces).map
        (Segment.prepend (String.ofList (if trims then dropLineBreak content else content))) := by
  unfold Piece.segments?
  rw [List.filterMap_cons_none rfl, apply_ite (Option.map _)]
  rfl

theorem Piece.segments?_tag_ok {tag : Tag} {segment : Segment} (h : tag.judge = .ok segment)
    (trims : Bool) (pieces : List Piece) :
    Piece.segments? trims (.tag tag :: pieces) =
      (Piece.segments? tag.trims pieces).map (segment :: ·) := by
  have herror : Piece.error? (.tag tag) = none := by simp only [Piece.error?, h]
  unfold Piece.segments?
  rw [List.filterMap_cons_none herror, assemble, h, apply_ite (Option.map _)]
  rfl

theorem Piece.segments?_tag_error {tag : Tag} {defect : Defect} (h : tag.judge = .error defect)
    (trims : Bool) (pieces : List Piece) :
    Piece.segments? trims (.tag tag :: pieces) = none := by
  have herror : Piece.error? (.tag tag) = some (defect.at tag.span) := by
    simp only [Piece.error?, h]
  unfold Piece.segments?
  rw [List.filterMap_cons_some herror, if_neg (List.cons_ne_nil _ _)]

/-! ## Line breaks behind a closer -/

/-- Dropping a line break is skipping the characters it is made of. -/
theorem lineBreak_append_dropLineBreak (cs : List Char) :
    Direct.lineBreak cs ++ dropLineBreak cs = cs := by
  fun_cases dropLineBreak cs with
  | case1 rest => rfl
  | case2 rest => rfl
  | case3 cs hcrlf hlf =>
    unfold Direct.lineBreak
    split
    next rest => exact (hcrlf rest rfl).elim
    next rest => exact (hlf rest rfl).elim
    next => rfl

/-- The line break in front of a run of plain characters is all inside of the run. -/
theorem lineBreak_append {run rest : List Char} (h : (Token.text run).Fits rest) :
    Direct.lineBreak (run ++ rest) = Direct.lineBreak run := by
  obtain ⟨hne, -, hrest⟩ := h
  match run with
  | [] => exact absurd rfl hne
  | [c] =>
    cases rest with
    | nil => rfl
    | cons d ds =>
      have hd : d ≠ '\n' := by
        rintro rfl
        exact absurd (hrest '\n' rfl) (by decide)
      show Direct.lineBreak (c :: d :: ds) = _
      unfold Direct.lineBreak
      split <;> simp_all
  | c :: d :: ds =>
    show Direct.lineBreak (c :: d :: (ds ++ rest)) = _
    unfold Direct.lineBreak
    split <;> simp_all

/-- A run of plain characters goes in front of the segments behind it, also when it is empty. -/
theorem Piece.segments?_run {run rest : List Char} (hrun : ∀ c ∈ run, isPlain c = true)
    (hrest : ∀ c ∈ rest.head?, isPlain c = false) (start : Nat) :
    (Piece.ofChars start (run ++ rest)).bind (Piece.segments? false) =
      ((Piece.ofChars (start + Text.byteLength run) rest).bind (Piece.segments? false)).map
        (Segment.prepend (String.ofList run)) := by
  by_cases hne : run = []
  · subst hne
    rw [String.ofList_nil, funext Segment.prepend_empty]
    exact (congrFun Option.map_id _).symm
  · have hfits : (Token.text run).Fits rest := ⟨hne, hrun, hrest⟩
    have hpieces := Piece.ofChars_literal hfits (fun _ => Token.noConfusion) start
    show (Piece.ofChars start ((Token.text run).source ++ rest)).bind _ = _
    rw [hpieces, Option.bind_map, Option.map_bind]
    refine Option.bind_congr fun pieces _ => ?_
    exact Piece.segments?_literal false run pieces

/-- Whether the closer before it trims makes no difference to a tag. -/
theorem Piece.segments?_tag (tag : Tag) (pieces : List Piece) :
    Piece.segments? true (.tag tag :: pieces) = Piece.segments? false (.tag tag :: pieces) := by
  cases h : tag.judge with
  | ok segment => rw [Piece.segments?_tag_ok h, Piece.segments?_tag_ok h]
  | error defect => rw [Piece.segments?_tag_error h, Piece.segments?_tag_error h]

/-- Nor does it make one to a token that is not text. -/
theorem Piece.segments?_token {token : Token} {rest : List Char} (h : token.Fits rest)
    (htext : ∀ run, token ≠ .text run) (start : Nat) :
    (Piece.ofChars start (token.source ++ rest)).bind (Piece.segments? true) =
      (Piece.ofChars start (token.source ++ rest)).bind (Piece.segments? false) := by
  by_cases hopener : ∃ kind, token = .opener kind
  · obtain ⟨kind, rfl⟩ := hopener
    have hpieces := Piece.ofChars_opener h [] start
    show (Piece.ofChars start (kind.source ++ rest)).bind _ =
      (Piece.ofChars start (kind.source ++ rest)).bind _
    rw [hpieces, Option.bind_assoc, Option.bind_assoc]
    refine Option.bind_congr fun found _ => ?_
    rw [Option.bind_map, Option.bind_map]
    exact Option.bind_congr fun pieces _ => Piece.segments?_tag _ pieces
  · have hliteral : dropLineBreak token.literal = token.literal := by
      cases token with
      | opener kind => exact absurd ⟨kind, rfl⟩ hopener
      | escape => rfl
      | closer trims => cases trims <;> rfl
      | lone delimiter => cases delimiter <;> rfl
      | text run => exact absurd rfl (htext run)
    rw [Piece.ofChars_literal h fun kind heq => hopener ⟨kind, heq⟩, Option.bind_map,
      Option.bind_map]
    refine Option.bind_congr fun pieces _ => ?_
    show Piece.segments? true (.literal token.literal :: pieces) =
      Piece.segments? false (.literal token.literal :: pieces)
    rw [Piece.segments?_literal, Piece.segments?_literal, if_pos rfl, hliteral]
    rfl

/-- **Behind a closer that trims, the segments are those of what stands behind the line break.** -/
theorem Piece.segments?_trims (start : Nat) (rest : List Char) :
    (Piece.ofChars start rest).bind (Piece.segments? true) =
      (Piece.ofChars (start + Text.byteLength (Direct.lineBreak rest))
        (rest.drop (Direct.lineBreak rest).length)).bind (Piece.segments? false) := by
  by_cases hrest : rest = []
  · subst hrest
    rfl
  obtain ⟨token, rest, rfl, hfits⟩ := Token.exists_fits hrest
  by_cases htext : ∃ run, token = .text run
  · obtain ⟨run, rfl⟩ := htext
    have hpieces := Piece.ofChars_literal hfits (fun _ => Token.noConfusion) start
    have hsplit := lineBreak_append_dropLineBreak run
    have hdrop : (run ++ rest).drop (Direct.lineBreak run).length = dropLineBreak run ++ rest := by
      have hleft : (Direct.lineBreak run ++ (dropLineBreak run ++ rest)).drop
          (Direct.lineBreak run).length = dropLineBreak run ++ rest := List.drop_left
      rwa [← List.append_assoc, hsplit] at hleft
    have hkept : ∀ c ∈ dropLineBreak run, isPlain c = true := fun c hc =>
      hfits.2.1 c (hsplit ▸ List.mem_append_right _ hc)
    show _ = (Piece.ofChars (start + Text.byteLength (Direct.lineBreak (run ++ rest)))
        ((run ++ rest).drop (Direct.lineBreak (run ++ rest)).length)).bind _
    rw [hpieces, lineBreak_append hfits, hdrop, Piece.segments?_run hkept hfits.2.2,
      Option.bind_map, Option.map_bind, Nat.add_assoc, ← Text.byteLength_append, hsplit]
    exact Option.bind_congr fun pieces _ => Piece.segments?_literal true run pieces
  · have hother : ∀ run, token ≠ .text run := fun run heq => htext ⟨run, heq⟩
    have hnone : Direct.lineBreak (token.source ++ rest) = [] := by
      cases token with
      | opener kind => cases kind <;> rfl
      | escape => rfl
      | closer trims => cases trims <;> rfl
      | lone delimiter => cases delimiter <;> rfl
      | text run => exact absurd rfl (hother run)
    rw [hnone, List.length_nil, List.drop_zero, Text.byteLength_nil, Nat.add_zero]
    exact Piece.segments?_token hfits hother start

/-! ## Tags under both readings -/

namespace Direct

theorem segments_output (before run rest : List Char) :
    let front := before ++ TagKind.output.source
    segments before run (TagKind.output.source ++ rest) =
      (ending front rest).bind fun found => (reference? front found.body).bind fun reference =>
        (segments (front ++ found.inner ++ ['%', '>'] ++ skipped found) []
          (found.rest.drop (skipped found).length)).map (flush run ++ .field reference :: ·) := by
  intro front
  show segments before run ('<' :: '%' :: '=' :: rest) = _
  rw [segments]
  split
  next h =>
    rw [show ending front rest = none from h]
    rfl
  next found h =>
    rw [show ending front rest = some found from h, Option.bind_some]
    show (match reference? front found.body with | none => _ | some reference => _) = _
    cases reference? front found.body <;> rfl

theorem segments_comment (before run rest : List Char) :
    let front := before ++ TagKind.comment.source
    segments before run (TagKind.comment.source ++ rest) =
      (ending front rest).bind fun found =>
        (segments (front ++ found.inner ++ ['%', '>'] ++ skipped found) []
          (found.rest.drop (skipped found).length)).map (flush run ++ .comment :: ·) := by
  intro front
  show segments before run ('<' :: '%' :: '#' :: rest) = _
  rw [segments]
  split
  next h =>
    rw [show ending front rest = none from h]
    rfl
  next found h =>
    rw [show ending front rest = some found from h]
    rfl

theorem segments_code {rest : List Char} (h : (Token.opener .code).Fits rest)
    (before run : List Char) : segments before run (TagKind.code.source ++ rest) = none := by
  show segments before run ('<' :: '%' :: rest) = none
  rw [segments]
  all_goals
    rintro tail rfl
    have := h _ rfl
    simp at this

/-- **An output tag is sound exactly when the direct scan finds a reference in it**, and stands for
that reference then. -/
theorem judge_output (before body : List Char) (stop : Nat) (trims : Bool) :
    let tag : Tag := ⟨.output, body, ⟨Text.byteLength before, stop⟩, trims⟩
    match reference? (before ++ TagKind.output.source) body with
    | some reference => tag.judge = .ok (.field reference)
    | none => ∃ defect, tag.judge = .error defect := by
  intro tag
  unfold reference?
  by_cases hname : isFieldName (Text.trim body) = true
  · simp only [if_pos hname, tag, Tag.judge, Tag.reference, Text.leadingBlanks,
      Text.byteLength_append]
  · by_cases hempty : (Text.trim body).isEmpty = true
    · simp only [if_neg hname, tag, Tag.judge, if_pos hempty]
      exact ⟨.emptyOutput, rfl⟩
    · simp only [if_neg hname, tag, Tag.judge, if_neg hempty]
      exact ⟨.invalidName _, rfl⟩

theorem flush_append {segments : List Segment}
    (h : ∀ content, segments.head? ≠ some (.text content)) (run : List Char) :
    Segment.prepend (String.ofList run) segments = flush run ++ segments := by
  rw [Segment.prepend_of_head? h]
  cases run with
  | nil => rfl
  | cons c cs =>
    rw [if_neg (by simp)]
    rfl

/-- A sound tag between literal characters and the pieces behind it. -/
theorem segments?_tag_ok {tag : Tag} {segment : Segment} (h : tag.judge = .ok segment)
    (hsegment : ∀ content, segment ≠ .text content) (run : List Char)
    (pieces : Option (List Piece)) :
    ((pieces.map (.tag tag :: ·)).bind (Piece.segments? false)).map
        (Segment.prepend (String.ofList run)) =
      (pieces.bind (Piece.segments? tag.trims)).map (flush run ++ segment :: ·) := by
  rw [Option.bind_map, Option.map_bind, Option.map_bind]
  refine Option.bind_congr fun found _ => ?_
  show (Piece.segments? false (.tag tag :: found)).map _ = _
  rw [Piece.segments?_tag_ok h, Option.map_map]
  congr 1
  funext others
  have hhead : ∀ content, (segment :: others).head? ≠ some (.text content) := fun content heq =>
    hsegment content (Option.some.inj heq)
  exact flush_append hhead run

/-- One tag found wanting leaves no segments. -/
theorem segments?_tag_error {tag : Tag} {defect : Defect} (h : tag.judge = .error defect)
    (trims : Bool) (pieces : Option (List Piece)) :
    (pieces.map (.tag tag :: ·)).bind (Piece.segments? trims) = none := by
  rw [Option.bind_map, ← Option.bind_fun_none pieces]
  exact Option.bind_congr fun found _ => Piece.segments?_tag_error h trims found

/-- Behind an ending, the segments of what is not skipped are those of the pieces. -/
theorem segments_behind {found : Ending} (front : List Char)
    (h : ∀ before, segments before [] (found.rest.drop (skipped found).length) =
      (Piece.ofChars (Text.byteLength before) (found.rest.drop (skipped found).length)).bind
        (Piece.segments? false)) :
    segments (front ++ found.inner ++ ['%', '>'] ++ skipped found) []
        (found.rest.drop (skipped found).length) =
      (Piece.ofChars (found.stop (Text.byteLength front)) found.rest).bind
        (Piece.segments? found.trims) := by
  have hstart : Text.byteLength (front ++ found.inner ++ ['%', '>'] ++ skipped found) =
      found.stop (Text.byteLength front) + Text.byteLength (skipped found) := by
    simp only [Ending.stop, Text.byteLength_append, Nat.add_assoc]
  rw [h, hstart]
  unfold skipped
  cases found.trims with
  | true => exact (Piece.segments?_trims _ found.rest).symm
  | false => rfl

/-- **The direct scan reads the segments of the pieces.** -/
theorem segments_eq_pieces (before run rest : List Char) :
    segments before run rest =
      ((Piece.ofChars (Text.byteLength before) rest).bind (Piece.segments? false)).map
        (Segment.prepend (String.ofList run)) := by
  induction hn : rest.length using Nat.strongRecOn generalizing before run rest with
  | ind n ih =>
  subst hn
  by_cases hrest : rest = []
  · subst hrest
    rw [segments]
    show some (flush run) = some (Segment.prepend (String.ofList run) [])
    rw [flush_append (fun _ => by simp) run, List.append_nil]
  obtain ⟨token, rest, rfl, hfits⟩ := Token.exists_fits hrest
  have hshorter : rest.length < (token.source ++ rest).length := by
    have hpos := List.length_pos_iff.mpr hfits.source_ne_nil
    rw [List.length_append]
    omega
  by_cases hopener : ∃ kind, token = .opener kind
  · obtain ⟨kind, rfl⟩ := hopener
    -- the characters behind the tag, on which the scan goes on with nothing pending
    have hbehind : ∀ found, ending (before ++ kind.source) rest = some found → ∀ start,
        segments start [] (found.rest.drop (skipped found).length) =
          (Piece.ofChars (Text.byteLength start) (found.rest.drop (skipped found).length)).bind
            (Piece.segments? false) := by
      intro found hfound start
      have hlength := ending_length hfound
      rw [ih _ (by rw [List.length_drop]; omega) start [] _ rfl, String.ofList_nil,
        funext Segment.prepend_empty]
      exact congrFun Option.map_id _
    show segments before run (kind.source ++ rest) =
      ((Piece.ofChars (Text.byteLength before) (kind.source ++ rest)).bind _).map _
    rw [Piece.ofChars_opener hfits before, Option.bind_assoc, Option.map_bind,
      ← Text.byteLength_append]
    cases kind with
    | output =>
      rw [segments_output]
      refine Option.bind_congr fun found hfound => ?_
      have hjudge := judge_output before found.body
        (found.stop (Text.byteLength (before ++ TagKind.output.source))) found.trims
      cases href : reference? (before ++ TagKind.output.source) found.body with
      | some reference =>
        rw [href] at hjudge
        have hpieces := segments?_tag_ok hjudge (fun _ => Segment.noConfusion) run
        rw [Option.bind_some, segments_behind _ (hbehind found hfound)]
        exact (hpieces _).symm
      | none =>
        rw [href] at hjudge
        obtain ⟨defect, hdefect⟩ := hjudge
        have hpieces := segments?_tag_error hdefect false
        exact (congrArg (Option.map _) (hpieces _)).symm
    | comment =>
      rw [segments_comment]
      refine Option.bind_congr fun found hfound => ?_
      have hjudge : (Tag.mk .comment found.body ⟨Text.byteLength before,
          found.stop (Text.byteLength (before ++ TagKind.comment.source))⟩ found.trims).judge =
            .ok .comment := rfl
      have hpieces := segments?_tag_ok hjudge (fun _ => Segment.noConfusion) run
      rw [segments_behind _ (hbehind found hfound)]
      exact (hpieces _).symm
    | code =>
      rw [segments_code hfits, ← Option.bind_fun_none (ending (before ++ TagKind.code.source) rest)]
      refine Option.bind_congr fun found _ => ?_
      exact (congrArg (Option.map _) (segments?_tag_error rfl false _)).symm
  · have hother : ∀ kind, token ≠ .opener kind := fun kind heq => hopener ⟨kind, heq⟩
    rw [segments_literal hfits hother, ih _ hshorter _ _ rest rfl,
      Piece.ofChars_literal hfits hother, Option.bind_map, Option.map_bind, Option.map_bind,
      Text.byteLength_append]
    refine Option.bind_congr fun pieces _ => ?_
    show _ = (Piece.segments? false (.literal token.literal :: pieces)).map _
    have hprepend : Segment.prepend (String.ofList (run ++ token.literal)) =
        Segment.prepend (String.ofList run) ∘ Segment.prepend (String.ofList token.literal) := by
      funext others
      rw [String.ofList_append]
      exact Segment.prepend_append _ _ others
    rw [Piece.segments?_literal, Option.map_map, if_neg Bool.false_ne_true, ← hprepend]
    rfl

end Direct

/-- A template parses to the segments that the direct scan finds. -/
theorem parse_eq_ok_iff {text : String} {template : Template} :
    parse text = .ok template ↔ Direct.scan text = some template.segments := by
  have hscan : Direct.scan text =
      (Piece.ofChars 0 text.toList).bind (Piece.segments? false) := by
    unfold Direct.scan
    rw [Direct.segments_eq_pieces, String.ofList_nil, funext Segment.prepend_empty]
    exact congrFun Option.map_id _
  rw [hscan]
  exact parse_eq_ok_iff_segments?

/-- **Parsing is the direct scan**: a text parses exactly when the scan of its characters succeeds,
then to exactly the segments that the scan finds, and it is refused exactly when the scan fails. -/
theorem parse_agrees_with_scan (text : String) :
    (∀ template, parse text = .ok template ↔ Direct.scan text = some template.segments) ∧
      ((∃ errors, parse text = .error errors) ↔ Direct.scan text = none) := by
  refine ⟨fun template => parse_eq_ok_iff, ?_⟩
  cases hscan : Direct.scan text with
  | none =>
    cases hparse : parse text with
    | error errors => exact ⟨fun _ => rfl, fun _ => ⟨errors, rfl⟩⟩
    | ok template => exact absurd (hscan.symm.trans (parse_eq_ok_iff.mp hparse)) (by simp)
  | some segments =>
    have hparse : parse text = .ok ⟨segments⟩ := parse_eq_ok_iff.mpr hscan
    rw [hparse]
    simp only [reduceCtorEq, exists_const]

end Doxyfile.Template
