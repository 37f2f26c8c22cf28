import Mathlib.Data.List.Forall2
import Doxyfile.Proofs.Template.Joining
import Doxyfile.Proofs.Text.Splicing

/-!
# Renaming a reference in a template's text

The span of a reference holds its name and nothing else, and another field name may be written there
instead: the text is then read as before, with the one reference renamed and what stands behind it
moved (`parse_splice`).

A tag has a body and a closer, whatever it holds (`Ending.source_eq`). The body of a reference's tag
is a name between blanks (`exists_name_of_readFrom`), and a tag with such a body is read as a
reference (`readFrom_field`). What stands in front of the tag is read by itself, since a tag begins
with `<` (`readFrom_split`).
-/

namespace Doxyfile

/-- The reference with another name, which begins where the old one did. -/
def Reference.renamed (reference : Reference) (name : String) : Reference :=
  ⟨name, ⟨reference.span.start, reference.span.start + Text.byteLength name.toList⟩⟩

/-- **The same segment at another place**: a reference begins and ends `distance` bytes further on,
or further back when that is negative. -/
inductive Segment.MovedBy (distance : Int) : Segment → Segment → Prop where
  | text (content : String) : MovedBy distance (.text content) (.text content)
  | comment : MovedBy distance .comment .comment
  | field {reference moved : Reference} (name : moved.name = reference.name)
      (start : (moved.span.start : Int) = reference.span.start + distance)
      (stop : (moved.span.stop : Int) = reference.span.stop + distance) :
      MovedBy distance (.field reference) (.field moved)

theorem Segment.movedBy_shift (segment : Segment) (first second : Nat) :
    Segment.MovedBy (second - first) (segment.shift first) (segment.shift second) := by
  cases segment with
  | text content => exact .text content
  | comment => exact .comment
  | field reference =>
    refine .field rfl ?_ ?_
    · simp only [Reference.shift, Span.shift]
      omega
    · simp only [Reference.shift, Span.shift]
      omega

theorem Segment.prepend_eq_append {content : String} {segments before after : List Segment}
    {reference : Reference}
    (h : Segment.prepend content segments = before ++ .field reference :: after) :
    ∃ front, segments = front ++ .field reference :: after ∧
      Segment.prepend content front = before := by
  by_cases hcontent : content = ""
  · subst hcontent
    rw [Segment.prepend_empty] at h
    exact ⟨before, h, Segment.prepend_empty before⟩
  have hempty : ¬ content.isEmpty = true := by simpa using hcontent
  by_cases htext : ∃ next others, segments = .text next :: others
  · obtain ⟨next, others, rfl⟩ := htext
    cases before with
    | nil => cases h
    | cons first before =>
      obtain ⟨rfl, rfl⟩ := List.cons.inj h
      exact ⟨.text next :: before, rfl, rfl⟩
  · have hhead : ∀ next, segments.head? ≠ some (.text next) := by
      intro next hnext
      obtain ⟨others, rfl⟩ := List.head?_eq_some_iff.mp hnext
      exact htext ⟨next, others, rfl⟩
    rw [Segment.prepend_of_head? hhead, if_neg hempty] at h
    cases before with
    | nil => cases h
    | cons first before =>
      obtain ⟨rfl, rfl⟩ := List.cons.inj h
      refine ⟨before, rfl, ?_⟩
      rw [Segment.prepend_of_head? ?_, if_neg hempty]
      intro next hnext
      refine hhead next ?_
      show (before ++ .field reference :: after).head? = _
      rw [List.head?_append, hnext, Option.some_or]

end Doxyfile

namespace Doxyfile.Template

/-! ## The body of a tag and its closer -/

/-- **What stands behind an opener** is a body, a closer and the rest of the text. -/
theorem Ending.source_eq {before rest : List Char} {found : Ending}
    (h : ending before rest = some found) :
    rest = found.body ++ ((Token.closer found.trims).source ++ found.rest) := by
  rw [ending_eq_append h]
  cases htrims : found.trims with
  | false =>
    rw [Ending.body, htrims]
    rfl
  | true =>
    obtain ⟨init, hinit⟩ : ∃ init, found.inner = init ++ ['-'] := by
      rw [Ending.trims, beq_iff_eq] at htrims
      exact List.getLast?_eq_some_iff.mp htrims
    rw [Ending.body, htrims, if_pos rfl, hinit, List.dropLast_concat, List.append_assoc]
    rfl

theorem Ending.stop_eq {before rest : List Char} {found : Ending}
    (h : ending before rest = some found) (start : Nat) :
    found.stop start =
      start + Text.byteLength (found.body ++ (Token.closer found.trims).source) := by
  have hstop := Ending.stop_add h start
  rw [Ending.source_eq h] at hstop
  simp only [Text.byteLength_append] at hstop ⊢
  omega

/-! ## A name between blanks -/

/-- **An output tag with a name between blanks** is read as the reference to that name. -/
theorem readFrom_field {left name right rest : List Char} {closes : Bool} {tail : List Segment}
    (h : Written.Sound (.field name left right)) (trims : Bool) (start : Nat)
    (htail : readFrom closes (start + Text.byteLength (TagKind.output.source ++ left) +
      Text.byteLength name + Text.byteLength (right ++ (Token.closer closes).source)) rest =
        some tail) :
    readFrom trims start (TagKind.output.source ++
        (left ++ name ++ right ++ ((Token.closer closes).source ++ rest))) =
      some (.field ⟨String.ofList name, ⟨start + Text.byteLength (TagKind.output.source ++ left),
        start + Text.byteLength (TagKind.output.source ++ left) + Text.byteLength name⟩⟩ ::
          tail) := by
  have hkind : TagKind.output ≠ .code := by decide
  obtain ⟨found, hfound, hbody, hcloses, hrest⟩ := h.closable.ending_closer hkind closes rest
  obtain ⟨hname, hleft, hright⟩ := h
  obtain ⟨htrim, hblanks⟩ := trim_name hleft hname hright
  have hfits : (Token.opener .output).Fits
      (left ++ name ++ right ++ ((Token.closer closes).source ++ rest)) := trivial
  have hstop : found.stop (start + Text.byteLength TagKind.output.source) =
      start + Text.byteLength (TagKind.output.source ++ left) + Text.byteLength name +
        Text.byteLength (right ++ (Token.closer closes).source) := by
    rw [Ending.stop_eq hfound, hbody, hcloses]
    simp only [Text.byteLength_append]
    omega
  refine (readFrom_tag_iff hfits hfound).mpr ⟨_, tail, ?_, ?_, rfl⟩
  · rw [hbody, hcloses, Tag.judge_output, htrim, if_pos hname]
    simp only [Tag.reference, htrim, hblanks, Text.byteLength_append, Nat.add_assoc]
  · rw [hstop, hcloses, hrest]
    exact htail

/-! ## The tag of a reference -/

theorem Tag.kind_of_judge {tag : Tag} {reference : Reference}
    (h : tag.judge = .ok (.field reference)) : tag.kind = .output := by
  obtain ⟨kind, body, span, trims⟩ := tag
  cases kind with
  | output => rfl
  | comment => cases h
  | code => cases h

/-- **A reference comes from an output tag**, and what stands in front of the tag and behind it is
read as the segments in front of the reference and behind it. -/
theorem readFrom_split {trims : Bool} {start : Nat} {cs : List Char} {before after : List Segment}
    {reference : Reference}
    (h : readFrom trims start cs = some (before ++ .field reference :: after)) :
    ∃ front rest found, cs = front ++ (TagKind.output.source ++ rest) ∧
      readFrom trims start front = some before ∧
      ending TagKind.output.source rest = some found ∧
      let opened := start + Text.byteLength front
      let stop := found.stop (opened + Text.byteLength TagKind.output.source)
      Tag.judge ⟨.output, found.body, ⟨opened, stop⟩, found.trims⟩ = .ok (.field reference) ∧
        readFrom found.trims stop found.rest = some after := by
  induction cs using Piece.chain_induction generalizing trims start before with
  | nil =>
    have hnil : [] = before ++ .field reference :: after := Option.some.inj h
    exact absurd hnil (by simp)
  | literal token rest hfits hopener ih =>
    rw [readFrom_literal hfits hopener] at h
    obtain ⟨segments, hsegments, hprepend⟩ := Option.map_eq_some_iff.mp h
    -- the literal may have become one text with what follows it, but that is no reference
    obtain ⟨behind, rfl, rfl⟩ := Segment.prepend_eq_append hprepend
    obtain ⟨front, tail, found, rfl, hfront, hfound, htag⟩ := ih hsegments
    refine ⟨token.source ++ front, tail, found, (List.append_assoc _ _ _).symm, ?_, hfound, ?_⟩
    · rw [readFrom_literal hfits.of_append hopener, hfront]
      rfl
    · rw [Text.byteLength_append, ← Nat.add_assoc]
      exact htag
  | unclosed kind rest hfits hnone =>
    rw [readFrom_unclosed hfits hnone] at h
    cases h
  | tag kind rest found hfits hfound ih =>
    obtain ⟨segment, segments, hjudge, hsegments, heq⟩ := (readFrom_tag_iff hfits hfound).mp h
    cases before with
    | nil =>
      obtain ⟨rfl, rfl⟩ := List.cons.inj heq
      obtain rfl : kind = .output := Tag.kind_of_judge hjudge
      exact ⟨[], rest, found, rfl, rfl, hfound, hjudge, hsegments⟩
    | cons first before =>
      obtain ⟨rfl, rfl⟩ := List.cons.inj heq
      obtain ⟨front, tail, next, hrest, hfront, hnext, htag⟩ := ih hsegments
      have hsource : rest = found.inner ++ '%' :: '>' :: front ++
          (TagKind.output.source ++ tail) := by
        rw [ending_eq_append hfound, hrest]
        simp only [List.append_assoc, List.cons_append]
      have hstop : start + Text.byteLength (kind.source ++ (found.inner ++ '%' :: '>' :: front)) =
          found.stop (start + Text.byteLength kind.source) + Text.byteLength front := by
        simp only [Ending.stop, Text.byteLength_append, Text.byteLength_cons, Text.byteLength_nil]
        omega
      refine ⟨kind.source ++ (found.inner ++ '%' :: '>' :: front), tail, next, ?_, ?_, hnext, ?_⟩
      · rw [hsource, List.append_assoc kind.source]
      · rw [hsource] at hfits
        exact (readFrom_tag_iff hfits.of_append (ending_congr hfound front)).mpr
          ⟨first, before, hjudge, hfront, rfl⟩
      · rw [hstop]
        exact htag

theorem Tag.reference_of_judge {body : List Char} {span : Span} {trims : Bool}
    {reference : Reference}
    (h : Tag.judge ⟨.output, body, span, trims⟩ = .ok (.field reference)) :
    isFieldName (Text.trim body) = true ∧
      Tag.reference ⟨.output, body, span, trims⟩ = reference := by
  rw [Tag.judge_output] at h
  split at h
  next hname => exact ⟨hname, Segment.field.inj (Except.ok.inj h)⟩
  next => split at h <;> cases h

/-- **A reference stands between blanks in an output tag**, and its span is where the name is. -/
theorem exists_name_of_readFrom {trims : Bool} {start : Nat} {cs : List Char}
    {before after : List Segment} {reference : Reference}
    (h : readFrom trims start cs = some (before ++ .field reference :: after)) :
    ∃ ahead left name right closes rest,
      cs = ahead ++ (TagKind.output.source ++
        (left ++ name ++ right ++ ((Token.closer closes).source ++ rest))) ∧
      readFrom trims start ahead = some before ∧ Written.Sound (.field name left right) ∧
      let place := start + Text.byteLength (ahead ++ (TagKind.output.source ++ left))
      reference = ⟨String.ofList name, ⟨place, place + Text.byteLength name⟩⟩ ∧
        readFrom closes (place + Text.byteLength name +
          Text.byteLength (right ++ (Token.closer closes).source)) rest = some after := by
  obtain ⟨ahead, rest, found, hcs, hahead, hfound, hjudge, hafter⟩ := readFrom_split h
  obtain ⟨hname, hreference⟩ := Tag.reference_of_judge hjudge
  obtain ⟨right, hright, hbody⟩ := exists_trim found.body
  have hrest := Ending.source_eq hfound
  rw [Ending.stop_eq hfound] at hafter
  refine ⟨ahead, Text.leadingBlanks found.body, Text.trim found.body, right, found.trims,
    found.rest, ?_, hahead, ⟨hname, isBlank_of_mem_leadingBlanks, hright⟩, ?_, ?_⟩
  · rw [← hbody, ← hrest, hcs]
  · rw [← hreference]
    simp only [Tag.reference, Text.byteLength_append, Nat.add_assoc]
  · have hlength := congrArg Text.byteLength hbody
    rw [← hafter]
    congr 1
    simp only [Text.byteLength_append] at hlength ⊢
    omega

/-! ## Another name in the place of a reference's name -/

/-- **The span of a reference holds its name**, and when any field name stands there, the text is
read as the same segments, with the reference renamed; the places of those behind it count from the
end of the name. -/
theorem parse_rename {text : String} {before after : List Segment} {reference : Reference}
    (h : parse text = .ok ⟨before ++ .field reference :: after⟩) :
    ∃ (front back : List Char) (tail : List Segment),
      text.toList = front ++ reference.name.toList ++ back ∧
      reference.span = ⟨Text.byteLength front,
        Text.byteLength front + Text.byteLength reference.name.toList⟩ ∧
      after = tail.map (Segment.shift reference.span.stop) ∧
      ∀ name, isFieldName name = true →
        parse (String.ofList (front ++ name ++ back)) = .ok ⟨before ++
          .field ⟨String.ofList name, ⟨Text.byteLength front,
            Text.byteLength front + Text.byteLength name⟩⟩ ::
              tail.map (Segment.shift (Text.byteLength front + Text.byteLength name))⟩ := by
  rw [parse_eq_ok_iff_readFrom] at h
  obtain ⟨ahead, left, written, right, closes, rest, htext, hahead, ⟨-, hleft, hright⟩, rfl,
    hafter⟩ := exists_name_of_readFrom h
  rw [Nat.zero_add, Nat.add_comm _ (Text.byteLength (right ++ _)), readFrom_shift] at hafter
  obtain ⟨tail, htail, rfl⟩ := Option.map_eq_some_iff.mp hafter
  refine ⟨ahead ++ (TagKind.output.source ++ left), right ++ (Token.closer closes).source ++ rest,
    tail, ?_, ?_, ?_, fun name hname => ?_⟩
  · simp only [htext, String.toList_ofList, List.append_assoc]
  · simp only [String.toList_ofList, Nat.zero_add]
  · simp only [Nat.zero_add]
  · have hplace : 0 + Text.byteLength ahead + Text.byteLength (TagKind.output.source ++ left) =
        Text.byteLength (ahead ++ (TagKind.output.source ++ left)) := by
      rw [Nat.zero_add, ← Text.byteLength_append]
    have hmoved : readFrom closes (0 + Text.byteLength ahead +
        Text.byteLength (TagKind.output.source ++ left) + Text.byteLength name +
          Text.byteLength (right ++ (Token.closer closes).source)) rest =
        some (tail.map (Segment.shift
          (Text.byteLength (ahead ++ (TagKind.output.source ++ left)) +
            Text.byteLength name))) := by
      rw [hplace, Nat.add_comm, readFrom_shift, htail]
      rfl
    have hfield := readFrom_field ⟨hname, hleft, hright⟩ false (0 + Text.byteLength ahead) hmoved
    have hseparate : Separate (TagKind.output.source ++
        (left ++ name ++ right ++ ((Token.closer closes).source ++ rest))) :=
      fun c hc => .inl (Option.some.inj hc).symm
    have hsource : ahead ++ (TagKind.output.source ++ left) ++ name ++
        (right ++ (Token.closer closes).source ++ rest) = ahead ++ (TagKind.output.source ++
          (left ++ name ++ right ++ ((Token.closer closes).source ++ rest))) := by
      simp only [List.append_assoc]
    rw [parse_eq_ok_iff_readFrom, String.toList_ofList, hsource,
      readFrom_append hahead hseparate, hfield, hplace]
    exact congrArg some (Segment.join_of_head? (fun content => by simp) before)

/-- **The name of a reference replaced where its span says it is.** -/
theorem parse_splice {text : String} {before after : List Segment} {reference : Reference}
    (h : parse text = .ok ⟨before ++ .field reference :: after⟩) {name : String}
    (hname : isFieldName name.toList = true) :
    ∃ later,
      parse (Text.splice text reference.span name) =
        .ok ⟨before ++ .field (reference.renamed name) :: later⟩ ∧
      List.Forall₂
        (Segment.MovedBy (Text.byteLength name.toList - Text.byteLength reference.name.toList))
        after later := by
  obtain ⟨front, back, tail, htext, hspan, rfl, hrename⟩ := parse_rename h
  have hstart : reference.span.start = Text.byteLength front := congrArg Span.start hspan
  have hstop : reference.span.stop = reference.span.start + Text.byteLength reference.name.toList :=
    (congrArg Span.stop hspan).trans (by rw [hstart])
  have hspliced := Text.toList_splice htext name
  have hparse := hrename name.toList hname
  rw [← hspan] at hspliced
  rw [← hspliced, ← hstart, String.ofList_toList, String.ofList_toList] at hparse
  refine ⟨_, hparse, ?_⟩
  -- both lists are the segments behind the name, counted from its old and from its new end
  rw [List.forall₂_map_left_iff, List.forall₂_map_right_iff, List.forall₂_same]
  intro segment _
  have hmoved := segment.movedBy_shift reference.span.stop
    (reference.span.start + Text.byteLength name.toList)
  have hdistance : ((reference.span.start + Text.byteLength name.toList : Nat) : Int) -
      reference.span.stop =
        Text.byteLength name.toList - Text.byteLength reference.name.toList := by omega
  rwa [hdistance] at hmoved

end Doxyfile.Template
