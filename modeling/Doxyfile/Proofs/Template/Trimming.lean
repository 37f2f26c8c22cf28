import Doxyfile.Proofs.Template.Rewriting
import Doxyfile.Proofs.Template.WellFormed

/-!
# What a closer that trims takes away

`-%>` takes the one line break behind it and nothing else. So behind a text that parses, a tag
closed by `-%>` and a line break come to what the same tag closed by `%>` comes to without the line
break, whatever stands behind them (`parse_trimmed`): the same segments, or the same errors, with
the places behind the tag moved by the hyphen and the line break.

Two things make it so. What stands behind a tag is read as if it stood alone, but for places and for
the closer in front of it (`parse_tag`). And that closer takes its line break from what is behind it
before anything else is done with it, also when it cannot be read (`behind_trims`).
-/

namespace Doxyfile.Template

theorem lineBreak_eq_nil {cs : List Char} (hlf : ¬ ['\n'] <+: cs)
    (hcrlf : ¬ ['\r', '\n'] <+: cs) : Direct.lineBreak cs = [] := by
  unfold Direct.lineBreak
  split
  next rest => exact absurd (List.prefix_append ['\r', '\n'] rest) hcrlf
  next rest => exact absurd (List.prefix_append ['\n'] rest) hlf
  next => rfl

/-! ## Behind segments -/

/-- **What characters come to behind segments** that end at byte `distance`. -/
def behind (front : List Segment) (distance : Nat) :
    Except (List SyntaxError) (List Segment) → Except (List SyntaxError) Template
  | .ok segments => .ok ⟨front ++ segments.map (Segment.shift distance)⟩
  | .error errors => .error (errors.map (SyntaxError.shift distance))

theorem SyntaxError.shift_shift (first second : Nat) (error : SyntaxError) :
    (error.shift first).shift second = error.shift (first + second) := by
  simp only [shift, Span.shift, Nat.add_assoc]

/-- Places move by all that is in front of them. -/
theorem behind_shift (front : List Segment) (distance further : Nat) (cs : List Char) :
    behind front distance (parseFrom false (0 + further) cs) =
      behind front (distance + further) (parseFrom false 0 cs) := by
  rw [parseFrom_shift, Nat.add_comm distance]
  cases parseFrom false 0 cs with
  | ok segments =>
    show behind front distance (.ok (segments.map (Segment.shift further))) = _
    simp only [behind, List.map_map, Function.comp_def, Segment.shift_shift]
  | error errors =>
    show behind front distance (.error (errors.map (SyntaxError.shift further))) = _
    simp only [behind, List.map_map, Function.comp_def, SyntaxError.shift_shift]

/-- **A closer that trims takes one line break** of what is behind it. -/
theorem behind_trims (front : List Segment) (distance : Nat) (cs : List Char) :
    behind front distance (parseFrom true 0 cs) =
      behind front (distance + Text.byteLength (Direct.lineBreak cs))
        (parseFrom false 0 (dropLineBreak cs)) := by
  have hsplit := lineBreak_append_dropLineBreak cs
  have hdrop : (Direct.lineBreak cs ++ dropLineBreak cs).drop (Direct.lineBreak cs).length =
      dropLineBreak cs := List.drop_left
  rw [hsplit] at hdrop
  -- the line break is plain, so the tags behind it keep their faults
  have hplain : ∀ c ∈ Direct.lineBreak cs, isPlain c = true := by
    refine List.all_eq_true.mp ?_
    unfold Direct.lineBreak
    split <;> rfl
  have hfaults := faultsFrom_plain hplain 0 (dropLineBreak cs)
  rw [hsplit] at hfaults
  have hread : readFrom true 0 cs =
      readFrom false (0 + Text.byteLength (Direct.lineBreak cs)) (dropLineBreak cs) := by
    have htrims := Piece.segments?_trims 0 cs
    rwa [hdrop] at htrims
  have hlength : Text.byteLength cs =
      Text.byteLength (Direct.lineBreak cs) + Text.byteLength (dropLineBreak cs) := by
    rw [← Text.byteLength_append, hsplit]
  have hsame : parseFrom true 0 cs =
      parseFrom false (0 + Text.byteLength (Direct.lineBreak cs)) (dropLineBreak cs) := by
    unfold parseFrom
    rw [hfaults, hread, hlength, Nat.add_assoc]
  rw [hsame, behind_shift]

/-! ## Tags with either closer -/

/-- The text of a tag. -/
def tagText (kind : TagKind) (body : List Char) (trims : Bool) : String :=
  String.ofList (kind.source ++ body ++ (Token.closer trims).source)

/-- **The tags that may have either closer**: an output tag around a field name, and a comment whose
content leaves the closer alone. -/
inductive Trimmable : TagKind → List Char → Prop where
  | field {left name right : List Char} (h : Written.Sound (.field name left right)) :
      Trimmable .output (left ++ name ++ right)
  | comment {content : List Char} (h : Written.Closable content) : Trimmable .comment content

namespace Trimmable

variable {kind : TagKind} {body : List Char}

theorem closable (h : Trimmable kind body) : Written.Closable body := by
  cases h with
  | field h => exact h.closable
  | comment h => exact h

theorem ne_code (h : Trimmable kind body) : kind ≠ .code := by
  cases h with
  | field h => decide
  | comment h => decide

theorem fits (h : Trimmable kind body) (rest : List Char) : (Token.opener kind).Fits rest := by
  cases h with
  | field h => trivial
  | comment h => trivial

/-- **The tag stands for the same segment with either closer.** -/
theorem exists_segment (h : Trimmable kind body) (start : Nat) :
    ∃ segment, (∀ content, segment ≠ .text content) ∧
      ∀ stop trims, Tag.judge ⟨kind, body, ⟨start, stop⟩, trims⟩ = .ok segment := by
  cases h with
  | comment h => exact ⟨.comment, fun _ => Segment.noConfusion, fun _ _ => rfl⟩
  | @field left name right h =>
    obtain ⟨hname, hleft, hright⟩ := h
    obtain ⟨htrim, -⟩ := trim_name hleft hname hright
    refine ⟨.field (Tag.reference ⟨.output, left ++ name ++ right, ⟨start, start⟩, false⟩),
      fun _ => Segment.noConfusion, fun stop trims => ?_⟩
    rw [Tag.judge_output, htrim, if_pos hname]
    rfl

end Trimmable

/-- **Behind a text that parses, a tag is read as its segment**, and what is behind the tag as if it
stood alone behind the tag's closer. -/
theorem parse_tag {first : String} {left : Template} (hfirst : parse first = .ok left)
    {kind : TagKind} {body : List Char} (h : Trimmable kind body) :
    ∃ segment, ∀ trims rest,
      parse (first ++ tagText kind body trims ++ rest) =
        behind (left.segments ++ [segment]) (first ++ tagText kind body trims).utf8ByteSize
          (parseFrom trims 0 rest.toList) := by
  obtain ⟨segment, htext, hjudge⟩ := h.exists_segment (0 + Text.byteLength first.toList)
  refine ⟨segment, fun trims rest => ?_⟩
  have hsource : (first ++ tagText kind body trims ++ rest).toList = first.toList ++
      (kind.source ++ (body ++ ((Token.closer trims).source ++ rest.toList))) := by
    simp only [tagText, String.toList_append, String.toList_ofList, List.append_assoc]
  have hseparate : Separate
      (kind.source ++ (body ++ ((Token.closer trims).source ++ rest.toList))) := by
    cases kind <;> exact fun c hc => .inl (Option.some.inj hc).symm
  obtain ⟨found, hfound, rfl, rfl, hrest⟩ := h.closable.ending_closer h.ne_code trims rest.toList
  have hstop : found.stop (0 + Text.byteLength first.toList + Text.byteLength kind.source) =
      0 + (first ++ tagText kind found.body found.trims).utf8ByteSize := by
    rw [Ending.stop_eq hfound, Text.utf8ByteSize_eq]
    simp only [tagText, String.toList_append, String.toList_ofList, Text.byteLength_append]
    omega
  have hread := parse_eq_ok_iff_readFrom.mp hfirst
  have hfaults := faultsFrom_append (faultsFrom_of_readFrom hread) hseparate
  rw [faultsFrom_tag (h.fits _) hfound (hjudge _ _), hstop, hrest, faultsFrom_shift] at hfaults
  have hboth := readFrom_append hread hseparate
  rw [readFrom_tag (h.fits _) hfound (hjudge _ _), hstop, hrest, readFrom_shift, Option.map_map,
    Option.map_map] at hboth
  have hparse := parseFrom_map hfaults hboth ?_
  · rw [parse_eq_parseFrom, hsource, hparse]
    cases parseFrom found.trims 0 rest.toList with
    | error errors => rfl
    | ok segments =>
      have hhead : ∀ content, (segment :: segments.map (Segment.shift
          (first ++ tagText kind found.body found.trims).utf8ByteSize)).head? ≠
            some (.text content) := fun content heq => htext content (Option.some.inj heq)
      refine congrArg (fun all => Except.ok (Template.mk all)) ?_
      rw [List.append_assoc]
      exact Segment.join_of_head? hhead left.segments
  · have hlength := congrArg Text.byteLength hsource
    rw [String.toList_append, Text.byteLength_append, ← Text.utf8ByteSize_eq] at hlength
    rw [← hlength]
    simp only [SyntaxError.shift, Defect.at, Span.shift, Nat.zero_add, Nat.add_comm]

/-! ## One line break and nothing else -/

namespace Rewrite

/-- **Everything from a place on is moved**, and all texts stay. -/
def moved (place distance : Nat) : Rewrite :=
  ⟨id, fun old => if place ≤ old then old + distance else old⟩

variable {place : Nat}

theorem span_moved_shift (distance : Nat) (old : Span) :
    (moved place distance).span (old.shift place) = old.shift (place + distance) := by
  simp only [span, moved, Span.shift, if_pos (Nat.le_add_left place _), Nat.add_assoc]

theorem segment_moved_shift (distance : Nat) (segment : Segment) :
    (moved place distance).segment (segment.shift place) = segment.shift (place + distance) := by
  cases segment with
  | text content => rfl
  | comment => rfl
  | field reference =>
    simp only [Rewrite.segment, Rewrite.reference, Segment.shift, Reference.shift, span_moved_shift]

theorem error_moved_shift (distance : Nat) (error : SyntaxError) :
    (moved place distance).error (error.shift place) = error.shift (place + distance) := by
  simp only [Rewrite.error, SyntaxError.shift, span_moved_shift]
  rfl

/-- Nothing in front of the place is moved. -/
theorem segment_moved_front {segment : Segment} (distance : Nat)
    (h : ∀ reference, segment = .field reference →
      reference.span.start < place ∧ reference.span.stop < place) :
    (moved place distance).segment segment = segment := by
  cases segment with
  | text content => rfl
  | comment => rfl
  | field reference =>
    obtain ⟨hstart, hstop⟩ := h reference rfl
    simp only [Rewrite.segment, Rewrite.reference, Rewrite.span, moved,
      if_neg (Nat.not_le_of_lt hstart), if_neg (Nat.not_le_of_lt hstop)]

/-- **What is behind segments is moved, and the segments are not.** -/
theorem outcome_moved_behind {front : List Segment} (distance : Nat)
    (h : ∀ reference, .field reference ∈ front →
      reference.span.start < place ∧ reference.span.stop < place)
    (outcome : Except (List SyntaxError) (List Segment)) :
    (moved place distance).outcome (behind front place outcome) =
      behind front (place + distance) outcome := by
  have hfront : front.map (moved place distance).segment = front := by
    refine (List.map_congr_left fun segment hmem => ?_).trans (List.map_id front)
    exact segment_moved_front distance fun reference heq => h reference (heq ▸ hmem)
  cases outcome with
  | ok segments =>
    simp only [behind, Rewrite.outcome, List.map_append, List.map_map, hfront, Function.comp_def,
      segment_moved_shift]
  | error errors =>
    simp only [behind, Rewrite.outcome, List.map_map, Function.comp_def, error_moved_shift]

end Rewrite

/-- **A closer that trims takes one line break and nothing else.** Behind a text that parses, a tag
closed by `-%>` and a line break come to what the tag closed by `%>` comes to alone, whatever stands
behind them: the same segments or the same errors, with the places behind the tag moved by the
hyphen and the line break. Where there is no line break, only the hyphen moves them. -/
theorem parse_trimmed {first : String} {left : Template} (hfirst : parse first = .ok left)
    {kind : TagKind} {body : List Char} (h : Trimmable kind body) (rest : String) :
    (∀ lineBreak ∈ ["\n", "\r\n"],
      parse (first ++ tagText kind body true ++ (lineBreak ++ rest)) =
        (Rewrite.moved (first ++ tagText kind body false).utf8ByteSize
          (1 + lineBreak.utf8ByteSize)).outcome
            (parse (first ++ tagText kind body false ++ rest))) ∧
    (¬ ['\n'] <+: rest.toList → ¬ ['\r', '\n'] <+: rest.toList →
      parse (first ++ tagText kind body true ++ rest) =
        (Rewrite.moved (first ++ tagText kind body false).utf8ByteSize 1).outcome
          (parse (first ++ tagText kind body false ++ rest))) := by
  obtain ⟨segment, htag⟩ := parse_tag hfirst h
  have hplain : parse (first ++ tagText kind body false) = .ok ⟨left.segments ++ [segment]⟩ := by
    have halone := htag false ""
    have hempty : parseFrom false 0 "".toList = .ok [] := rfl
    rw [String.append_empty, hempty] at halone
    rw [halone]
    exact congrArg (fun all => Except.ok (Template.mk all)) (List.append_nil _)
  have hfront : ∀ reference, .field reference ∈ left.segments ++ [segment] →
      reference.span.start < (first ++ tagText kind body false).utf8ByteSize ∧
        reference.span.stop < (first ++ tagText kind body false).utf8ByteSize := by
    intro reference hmem
    obtain ⟨hle, hlt⟩ := stop_lt_of_parse hplain (List.mem_filterMap.mpr ⟨_, hmem, rfl⟩)
    exact ⟨Nat.lt_of_le_of_lt hle hlt, hlt⟩
  have hmoved : ∀ distance, (Rewrite.moved (first ++ tagText kind body false).utf8ByteSize
      distance).outcome (parse (first ++ tagText kind body false ++ rest)) =
        behind (left.segments ++ [segment])
          ((first ++ tagText kind body false).utf8ByteSize + distance)
          (parseFrom false 0 rest.toList) := by
    intro distance
    rw [htag false rest, Rewrite.outcome_moved_behind distance hfront]
  have hhyphen : (first ++ tagText kind body true).utf8ByteSize =
      (first ++ tagText kind body false).utf8ByteSize + 1 := by
    simp only [tagText, Text.utf8ByteSize_eq, String.toList_append, String.toList_ofList,
      Text.byteLength_append, Nat.add_assoc]
    rfl
  have htrims : ∀ next, parse (first ++ tagText kind body true ++ next) =
      behind (left.segments ++ [segment]) ((first ++ tagText kind body false).utf8ByteSize +
        (1 + Text.byteLength (Direct.lineBreak next.toList)))
        (parseFrom false 0 (dropLineBreak next.toList)) := by
    intro next
    rw [htag true next, behind_trims, hhyphen, Nat.add_assoc]
  refine ⟨fun lineBreak hmem => ?_, fun hlf hcrlf => ?_⟩
  · rw [hmoved, htrims, String.toList_append]
    rcases List.mem_pair.mp hmem with rfl | rfl <;> rfl
  · have hnone := lineBreak_eq_nil hlf hcrlf
    have hall := lineBreak_append_dropLineBreak rest.toList
    rw [hnone, List.nil_append] at hall
    rw [hmoved, htrims, hnone, hall]
    rfl

/-- Only one of two line breaks is taken, and the places of an error are moved with the tag. Behind
a comment, a carriage return that stands alone is no line break. -/
theorem parse_trimmed_once :
    parse "é<%= version -%>\r\n\n<%= 1 %>" =
        .error [⟨⟨20, 28⟩, "'1' is not a valid field name", ["field name"]⟩] ∧
      parse "é<%# % -%>\r<%= version %>" =
        .ok ⟨[.text "é", .comment, .text "\r", .field ⟨"version", ⟨16, 23⟩⟩]⟩ := by
  have hfirst : parse "é" = .ok ⟨[.text "é"]⟩ := by decide +kernel
  have hfield : Trimmable .output ([' '] ++ "version".toList ++ [' ']) :=
    .field ⟨by decide, List.all_eq_true.mp rfl, List.all_eq_true.mp rfl⟩
  have hcomment : Trimmable .comment [' ', '%', ' '] :=
    .comment ⟨by decide, by decide, by decide, by decide⟩
  constructor
  · refine ((parse_trimmed hfirst hfield "\n<%= 1 %>").1 "\r\n" (by decide)).trans ?_
    decide +kernel
  · refine ((parse_trimmed hfirst hcomment "\r<%= version %>").2 (by decide) (by decide)).trans ?_
    decide +kernel

end Doxyfile.Template
