import Mathlib.Data.List.Chain
import Doxyfile.Proofs.Template.Faults

/-!
# The form of templates that come from a text

`Template` allows any segments. Those of a template that was read from a text have a form of their
own (`WellFormed`): no text in it is empty or stands next to another one, and every reference has a
field name and the span of that name in the text, in the order in which the names stand there.

Literals are merged wherever they come from (`assemble_merged`), an escape, a stray closer or a line
break of which nothing is left. The references are those of the output tags of the text, one for
each (`references_assemble`), and where a tag stands its name stands too (`Tag.reference_inTag`).
-/

namespace Doxyfile

/-- Whether the segment is literal text. -/
def Segment.isText : Segment → Bool
  | .text _ => true
  | .field _ => false
  | .comment => false

/-- **Texts are merged**: none of them is empty, and no two are neighbours. -/
structure Segment.Merged (segments : List Segment) : Prop where
  texts : ∀ content, .text content ∈ segments → content ≠ ""
  apart : segments.IsChain fun first second => ¬ (first.isText = true ∧ second.isText = true)

theorem Segment.Merged.tag {segments : List Segment} (h : Merged segments) {segment : Segment}
    (hsegment : ∀ content, segment ≠ .text content) : Merged (segment :: segments) := by
  have hnone : segment.isText = false := by
    cases segment with
    | text content => exact absurd rfl (hsegment content)
    | field reference => rfl
    | comment => rfl
  refine ⟨fun content hcontent => ?_, ?_⟩
  · rcases List.mem_cons.mp hcontent with heq | hmem
    · exact absurd heq.symm (hsegment content)
    · exact h.texts content hmem
  · refine List.isChain_cons.mpr ⟨fun next _ hboth => ?_, h.apart⟩
    rw [hnone] at hboth
    exact Bool.noConfusion hboth.1

/-- **Literal text put in front keeps the texts merged.** -/
theorem Segment.Merged.prepend {segments : List Segment} (h : Merged segments) (content : String) :
    Merged (Segment.prepend content segments) := by
  by_cases htext : ∃ next others, segments = .text next :: others
  · obtain ⟨next, others, rfl⟩ := htext
    have hnext := h.texts next List.mem_cons_self
    refine ⟨fun other hother => ?_, ?_⟩
    · rcases List.mem_cons.mp hother with heq | hmem
      · obtain rfl := Segment.text.inj heq
        exact fun hempty => hnext (String.append_eq_empty_iff.mp hempty).2
      · exact h.texts other (List.mem_cons_of_mem _ hmem)
    · obtain ⟨hfirst, hothers⟩ := List.isChain_cons.mp h.apart
      exact List.isChain_cons.mpr ⟨hfirst, hothers⟩
  · have hhead : ∀ next, segments.head? ≠ some (.text next) := by
      intro next hnext
      obtain ⟨others, rfl⟩ := List.head?_eq_some_iff.mp hnext
      exact htext ⟨next, others, rfl⟩
    rw [Segment.prepend_of_head? hhead]
    split
    next => exact h
    next hempty =>
      refine ⟨fun other hother => ?_, List.isChain_cons.mpr ⟨fun next hnext hboth => ?_, h.apart⟩⟩
      · rcases List.mem_cons.mp hother with heq | hmem
        · obtain rfl := Segment.text.inj heq
          exact fun hnone => hempty (by rw [hnone]; rfl)
        · exact h.texts other hmem
      · cases next with
        | text content => exact hhead content hnext
        | field reference => exact Bool.noConfusion hboth.2
        | comment => exact Bool.noConfusion hboth.2

end Doxyfile

namespace Doxyfile.Template

/-! ## Segments of pieces -/

/-- **The segments of pieces are merged**, whether tags among them are found wanting or not. -/
theorem assemble_merged (trims : Bool) (pieces : List Piece) :
    Segment.Merged (assemble trims pieces) := by
  induction pieces generalizing trims with
  | nil => exact ⟨fun _ hmem => absurd hmem List.not_mem_nil, .nil⟩
  | cons piece pieces ih =>
    cases piece with
    | literal content => exact (ih false).prepend _
    | tag tag =>
      rw [assemble]
      cases hjudge : tag.judge with
      | error defect => exact ih trims
      | ok segment =>
        refine (ih tag.trims).tag fun content heq => ?_
        exact Tag.judge_ne_text tag content (heq ▸ hjudge)

theorem references_prepend (content : String) (segments : List Segment) :
    Template.references ⟨Segment.prepend content segments⟩ = Template.references ⟨segments⟩ := by
  unfold Segment.prepend
  split
  next => rfl
  next => split <;> rfl

theorem Tag.toList_reference_name (tag : Tag) :
    tag.reference.name.toList = Text.trim tag.body :=
  String.toList_ofList

/-- What stands in a valid output tag is a field name. -/
theorem Tag.isFieldName_of_valid {tag : Tag} (h : ¬ tag.Invalid) (hkind : tag.kind = .output) :
    isFieldName (Text.trim tag.body) = true :=
  Bool.of_not_eq_false fun hfalse => h (.inr ⟨hkind, hfalse⟩)

/-- A tag that is not invalid inserts its field or is a comment. -/
theorem Tag.judge_of_valid {tag : Tag} (h : ¬ tag.Invalid) :
    tag.judge = .ok (if tag.kind = .output then .field tag.reference else .comment) := by
  obtain ⟨kind, body, span, trims⟩ := tag
  cases kind with
  | comment => rfl
  | code => exact absurd (.inl rfl) h
  | output =>
    rw [Tag.judge_output, if_pos (Tag.isFieldName_of_valid h rfl)]
    rfl

/-- **The references of pieces are those of their output tags.** -/
theorem references_assemble {pieces : List Piece}
    (h : ∀ tag ∈ pieces.filterMap Piece.tag?, ¬ tag.Invalid) (trims : Bool) :
    Template.references ⟨assemble trims pieces⟩ =
      ((pieces.filterMap Piece.tag?).filter (·.kind = .output)).map Tag.reference := by
  induction pieces generalizing trims with
  | nil => rfl
  | cons piece pieces ih =>
    cases piece with
    | literal content =>
      rw [assemble, references_prepend]
      exact ih h false
    | tag tag =>
      have htag : Piece.tag? (.tag tag) = some tag := rfl
      rw [List.filterMap_cons_some htag] at h ⊢
      obtain ⟨hvalid, hothers⟩ := List.forall_mem_cons.mp h
      rw [assemble, Tag.judge_of_valid hvalid]
      by_cases hkind : tag.kind = .output
      · rw [if_pos hkind, List.filter_cons_of_pos (by simpa using hkind), List.map_cons,
          ← ih hothers tag.trims]
        rfl
      · rw [if_neg hkind, List.filter_cons_of_neg (by simpa using hkind), ← ih hothers tag.trims]
        rfl

/-- **What a text parses to**, by its tags: they are all valid, and its references are those of the
output tags. -/
theorem exists_tags_of_parse {text : String} {template : Template}
    (h : parse text = .ok template) :
    ∃ tags, Direct.tagsOf text = some tags ∧ (∀ tag ∈ tags, ¬ tag.Invalid) ∧
      template.references = (tags.filter (·.kind = .output)).map Tag.reference ∧
      Segment.Merged template.segments := by
  obtain ⟨segments⟩ := template
  obtain ⟨pieces, hpieces, hsegments⟩ :=
    Option.bind_eq_some_iff.mp (parse_eq_ok_iff_segments?.mp h)
  have hlex : Piece.ofLexemes (lex text) = some pieces := hpieces
  unfold Piece.segments? at hsegments
  split at hsegments
  next hnone =>
    obtain rfl : assemble false pieces = segments := Option.some.inj hsegments
    rw [Piece.filterMap_error?, List.map_eq_nil_iff, List.filter_eq_nil_iff] at hnone
    have hvalid : ∀ tag ∈ pieces.filterMap Piece.tag?, ¬ tag.Invalid := fun tag htag =>
      by simpa using hnone tag htag
    refine ⟨_, ?_, hvalid, references_assemble hvalid false, assemble_merged false pieces⟩
    rw [Direct.tagsOf_eq_pieces, hlex]
    rfl
  next => cases hsegments

/-! ## References in their tags -/

/-- **The reference stands in an output tag of the text**: the tag is an opener, blanks, the name,
blanks and a closer, and the reference's span is where the name begins and ends. -/
structure InTag (text : String) (tag : Tag) (left right : List Char) (reference : Reference) :
    Prop where
  kind : tag.kind = .output
  left_blank : ∀ c ∈ left, Text.isBlank c = true
  right_blank : ∀ c ∈ right, Text.isBlank c = true
  source : Text.At text.toList tag.span (['<', '%', '='] ++ left ++ reference.name.toList ++
    right ++ if tag.trims then ['-', '%', '>'] else ['%', '>'])
  place : reference.span = ⟨tag.span.start + Text.byteLength (['<', '%', '='] ++ left),
    tag.span.start + Text.byteLength (['<', '%', '='] ++ left ++ reference.name.toList)⟩

/-- **The reference of an output tag stands in the tag.** -/
theorem Tag.reference_inTag {text : String} {tag : Tag} (hkind : tag.kind = .output)
    (hat : Text.At text.toList tag.span tag.source) :
    ∃ left right, InTag text tag left right tag.reference := by
  obtain ⟨right, hright, hbody⟩ := exists_trim tag.body
  have hcloser : (Token.closer tag.trims).source =
      if tag.trims then ['-', '%', '>'] else ['%', '>'] := by
    cases tag.trims <;> rfl
  have hname := tag.toList_reference_name
  have hopener : tag.kind.source = ['<', '%', '='] := by rw [hkind]; rfl
  refine ⟨Text.leadingBlanks tag.body, right, hkind, isBlank_of_mem_leadingBlanks, hright, ?_, ?_⟩
  · have hsource : tag.source = ['<', '%', '='] ++ (Text.leadingBlanks tag.body ++
        Text.trim tag.body ++ right) ++ (Token.closer tag.trims).source := by
      rw [← hbody, ← hopener]
      rfl
    rw [hsource, hcloser] at hat
    rw [hname]
    simpa only [List.append_assoc] using hat
  · rw [hname, ← hopener]
    simp only [Tag.reference, Text.byteLength_append, Nat.add_assoc]

namespace InTag

variable {text : String} {tag : Tag} {left right : List Char} {reference : Reference}

/-- The name stands in the text at the reference's span. -/
theorem at_name (h : InTag text tag left right reference) :
    Text.At text.toList reference.span reference.name.toList := by
  have hsource := h.source
  rw [List.append_assoc _ right] at hsource
  have hname := hsource.inside
  rw [Nat.add_assoc, ← Text.byteLength_append, ← h.place] at hname
  exact hname

/-- A field name takes up at least one byte. -/
theorem start_lt_stop (h : InTag text tag left right reference)
    (hname : isFieldName reference.name.toList = true) :
    reference.span.start < reference.span.stop := by
  obtain ⟨hne, -⟩ := isNameChar_of_isFieldName hname
  have hpos := Text.byteLength_pos hne
  rw [h.at_name.stop_eq]
  omega

theorem start_le (h : InTag text tag left right reference) :
    tag.span.start ≤ reference.span.start := by
  rw [h.place]
  exact Nat.le_add_right _ _

/-- Behind the name there is still the closer. -/
theorem lt_stop (h : InTag text tag left right reference) :
    reference.span.stop < tag.span.stop := by
  have hcloser : 0 < Text.byteLength (if tag.trims then ['-', '%', '>'] else ['%', '>']) := by
    cases tag.trims <;> decide
  rw [h.source.stop_eq, h.place]
  simp only [Text.byteLength_append]
  omega

theorem le_stop (h : InTag text tag left right reference) :
    reference.span.stop ≤ tag.span.stop :=
  Nat.le_of_lt h.lt_stop

end InTag

/-! ## Templates that were read -/

/-- **The form of a template that comes from the text.** -/
structure WellFormed (text : String) (template : Template) : Prop where
  /-- No text is empty, and no two are neighbours. -/
  merged : Segment.Merged template.segments
  /-- Names are a letter or underscore, and letters, digits and underscores behind it. -/
  named : ∀ reference ∈ template.references, ∃ first others,
    reference.name.toList = first :: others ∧ (first.isAlpha = true ∨ first = '_') ∧
      ∀ c ∈ others, c.isAlphanum = true ∨ c = '_'
  /-- No span is empty, and all lie within the text. -/
  within : ∀ reference ∈ template.references,
    reference.span.start < reference.span.stop ∧ reference.span.stop ≤ text.utf8ByteSize
  /-- Spans go up, and none reaches into the next. -/
  ordered : template.references.Pairwise fun first second =>
    first.span.start < second.span.start ∧ first.span.stop ≤ second.span.start
  /-- Both ends of a span fall between characters, and the name is what stands there. -/
  placed : ∀ reference ∈ template.references,
    Text.At text.toList reference.span reference.name.toList
  /-- The bytes at a span are those of the name. -/
  bytes : ∀ reference ∈ template.references,
    String.Pos.Raw.extract text ⟨reference.span.start⟩ ⟨reference.span.stop⟩ = reference.name
  /-- The references are those of the text's output tags, one for each and each in its tag. -/
  tagged : ∃ tags, Direct.tagsOf text = some tags ∧
    List.Forall₂ (fun tag reference => ∃ left right, InTag text tag left right reference)
      (tags.filter (·.kind = .output)) template.references

/-- What a field name is made of. -/
theorem exists_of_isFieldName {name : List Char} (h : isFieldName name = true) :
    ∃ first others, name = first :: others ∧ (first.isAlpha = true ∨ first = '_') ∧
      ∀ c ∈ others, c.isAlphanum = true ∨ c = '_' := by
  cases name with
  | nil => cases h
  | cons first others =>
    simp only [isFieldName, isNameStart, isNameChar, Bool.and_eq_true, Bool.or_eq_true, beq_iff_eq,
      List.all_eq_true] at h
    exact ⟨first, others, rfl, h⟩

/-- **The references of a text that parses**, output tag by output tag: each tag has one, which
stands in it and has a field name. -/
theorem exists_outputs_of_parse {text : String} {template : Template}
    (h : parse text = .ok template) :
    ∃ tags, Direct.tagsOf text = some tags ∧
      template.references = (tags.filter (·.kind = .output)).map Tag.reference ∧
      (∀ tag ∈ tags.filter (·.kind = .output),
        (∃ left right, InTag text tag left right tag.reference) ∧
          isFieldName tag.reference.name.toList = true) ∧
      (tags.filter (·.kind = .output)).Pairwise fun first second =>
        first.span.stop ≤ second.span.start := by
  obtain ⟨tags, htags, hvalid, hreferences, -⟩ := exists_tags_of_parse h
  obtain ⟨hplaced, hordered⟩ := Direct.tagsOf_located htags
  refine ⟨tags, htags, hreferences, fun tag htag => ?_, hordered.filter _⟩
  obtain ⟨hmem, hkind⟩ : tag ∈ tags ∧ tag.kind = .output := by simpa using List.mem_filter.mp htag
  refine ⟨Tag.reference_inTag hkind (hplaced tag hmem), ?_⟩
  rw [tag.toList_reference_name]
  exact Tag.isFieldName_of_valid (hvalid tag hmem) hkind

/-- Behind the name of a reference there is still the closer of its tag. -/
theorem stop_lt_of_parse {text : String} {template : Template} (h : parse text = .ok template)
    {reference : Reference} (hmem : reference ∈ template.references) :
    reference.span.start ≤ reference.span.stop ∧ reference.span.stop < text.utf8ByteSize := by
  obtain ⟨tags, -, hreferences, houtputs, -⟩ := exists_outputs_of_parse h
  rw [hreferences] at hmem
  obtain ⟨tag, htag, rfl⟩ := List.mem_map.mp hmem
  obtain ⟨⟨left, right, hin⟩, hname⟩ := houtputs tag htag
  have hstop := hin.source.stop_le
  rw [← Text.utf8ByteSize_eq] at hstop
  exact ⟨Nat.le_of_lt (hin.start_lt_stop hname), Nat.lt_of_lt_of_le hin.lt_stop hstop⟩

/-- **A text that parses gives a template of this form.** -/
theorem wellFormed_of_parse {text : String} {template : Template}
    (h : parse text = .ok template) : WellFormed text template := by
  obtain ⟨-, -, -, -, hmerged⟩ := exists_tags_of_parse h
  obtain ⟨tags, htags, hreferences, houtputs, hordered⟩ := exists_outputs_of_parse h
  have hstands : ∀ reference ∈ template.references, isFieldName reference.name.toList = true ∧
      ∃ tag left right, InTag text tag left right reference := by
    rw [hreferences, List.forall_mem_map]
    exact fun tag htag => ⟨(houtputs tag htag).2, tag, (houtputs tag htag).1⟩
  refine ⟨hmerged, fun reference hmem => ?_, fun reference hmem => ?_, ?_, fun reference hmem => ?_,
    fun reference hmem => ?_, tags, htags, ?_⟩
  · exact exists_of_isFieldName (hstands reference hmem).1
  · obtain ⟨hname, tag, left, right, hin⟩ := hstands reference hmem
    have hstop := hin.at_name.stop_le
    rw [Text.byteLength_eq_utf8Len, String.utf8Len_toList] at hstop
    exact ⟨hin.start_lt_stop hname, hstop⟩
  · rw [hreferences, List.pairwise_map]
    refine hordered.imp_of_mem fun {first second} hfirst hsecond hle => ?_
    obtain ⟨⟨_, _, hin⟩, hname⟩ := houtputs first hfirst
    obtain ⟨⟨_, _, hnext⟩, -⟩ := houtputs second hsecond
    -- the tags keep their references apart
    have hapart : first.reference.span.stop ≤ second.reference.span.start :=
      Nat.le_trans hin.le_stop (Nat.le_trans hle hnext.start_le)
    exact ⟨Nat.lt_of_lt_of_le (hin.start_lt_stop hname) hapart, hapart⟩
  · obtain ⟨-, tag, left, right, hin⟩ := hstands reference hmem
    exact hin.at_name
  · obtain ⟨-, tag, left, right, hin⟩ := hstands reference hmem
    rw [hin.at_name.extract_eq, String.ofList_toList]
  · rw [hreferences, List.forall₂_map_right_iff, List.forall₂_same]
    exact fun tag htag => (houtputs tag htag).1

/-- An escape, a stray closer and a comment around two output tags. Their names stand between blanks
of one to three bytes, and nothing is left of the last line break. -/
theorem wellFormed_of_mixed_tags :
    WellFormed "<%%<%= _a1 -%>\r\né%><%=\u3000B\u0085%>%><%# <%= -%>\n"
      ⟨[.text "<%", .field ⟨"_a1", ⟨7, 10⟩⟩, .text "é%>", .field ⟨"B", ⟨26, 27⟩⟩, .text "%>",
        .comment]⟩ :=
  wellFormed_of_parse (by decide +kernel)

end Doxyfile.Template
