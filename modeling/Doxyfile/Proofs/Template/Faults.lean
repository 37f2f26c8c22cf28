import Doxyfile.Proofs.Template.Tags

/-!
# What is told of a text that does not parse

A text is refused for one of two reasons. Some tag in it is never closed, and then that is all that
is told, at the end of the text (`Unclosed`). Or every tag is closed and some are invalid, and then
there is one error for each of those, in their order, at the place of the whole tag (`Misused`).
`parse_error_iff` says that there is no third way, and that each of the two is one.

The tags are those that a pass over the characters finds (`Direct.tagsOf`). What makes one of them
invalid is said of its kind and body alone (`Tag.Invalid`), and so is what is told of it, word for
word (`Tag.report`).
-/

namespace Doxyfile.Template

/-! ## Invalid tags -/

/-- **A tag that cannot stand in a template**: it asks for code, or it is there to insert a field
and its body, between the blanks, is no field name. -/
def Tag.Invalid (tag : Tag) : Prop :=
  tag.kind = .code ∨ tag.kind = .output ∧ isFieldName (Text.trim tag.body) = false

instance (tag : Tag) : Decidable tag.Invalid :=
  inferInstanceAs (Decidable (_ ∨ _))

/-- **What is told of an invalid tag**, word for word. The place is the whole tag, and a body that
is no field name is quoted without the blanks at its ends. -/
def Tag.report (tag : Tag) : SyntaxError where
  span := tag.span
  message :=
    if tag.kind = .code then "code tags are not supported, use '<%=' to insert a field"
    else if Text.trim tag.body = [] then "empty output tag"
    else "'" ++ String.ofList (Text.trim tag.body) ++ "' is not a valid field name"
  expected := if tag.kind = .code then [] else ["field name"]

/-- **A tag has an error exactly when it is invalid.** -/
theorem Piece.error?_tag (tag : Tag) :
    Piece.error? (.tag tag) = if tag.Invalid then some tag.report else none := by
  obtain ⟨kind, body, span, trims⟩ := tag
  cases kind with
  | comment => exact (if_neg fun h => by rcases h with h | ⟨h, -⟩ <;> cases h).symm
  | code => exact (if_pos (.inl rfl)).symm
  | output =>
    by_cases hname : isFieldName (Text.trim body) = true
    · have hvalid : ¬ Tag.Invalid ⟨.output, body, span, trims⟩ := by
        rintro (h | ⟨-, h⟩)
        · cases h
        · exact absurd (hname.symm.trans h) (by decide)
      simp only [Piece.error?, Tag.judge_output, if_pos hname, if_neg hvalid]
    · have hinvalid : Tag.Invalid ⟨.output, body, span, trims⟩ :=
        .inr ⟨rfl, Bool.eq_false_iff.mpr hname⟩
      simp only [Piece.error?, Tag.judge_output, if_neg hname, if_pos hinvalid, Tag.report,
        List.isEmpty_iff, reduceCtorEq, if_false]
      by_cases hempty : Text.trim body = []
      · simp only [if_pos hempty]
        rfl
      · simp only [if_neg hempty]
        rfl

/-- **The errors of pieces are those of their invalid tags.** -/
theorem Piece.filterMap_error? (pieces : List Piece) :
    pieces.filterMap Piece.error? =
      ((pieces.filterMap Piece.tag?).filter fun tag => tag.Invalid).map Tag.report := by
  induction pieces with
  | nil => rfl
  | cons piece pieces ih =>
    cases piece with
    | literal content => exact ih
    | tag tag =>
      have htag : Piece.tag? (.tag tag) = some tag := rfl
      rw [List.filterMap_cons, Piece.error?_tag, List.filterMap_cons_some htag]
      by_cases hinvalid : tag.Invalid
      · rw [if_pos hinvalid, List.filter_cons_of_pos (by simpa using hinvalid), List.map_cons, ← ih]
      · rw [if_neg hinvalid, List.filter_cons_of_neg (by simpa using hinvalid), ← ih]

/-- **What is told of a text**, by its tags. -/
theorem parse_error_iff_tags {text : String} {errors : List SyntaxError} :
    parse text = .error errors ↔
      (Direct.tagsOf text = none ∧ errors = [Defect.unclosedTag.at
        ⟨Text.byteLength text.toList, Text.byteLength text.toList⟩]) ∨
      ∃ tags, Direct.tagsOf text = some tags ∧ errors ≠ [] ∧
        errors = (tags.filter fun tag => tag.Invalid).map Tag.report := by
  rw [Direct.tagsOf_eq_pieces]
  unfold parse
  cases Piece.ofLexemes (lex text) with
  | none =>
    simp only [Option.map_none, Except.error.injEq, reduceCtorEq, true_and, false_and, exists_false,
      or_false, eq_comm]
  | some pieces =>
    simp only [Option.map_some, reduceCtorEq, false_and, false_or, Option.some.injEq,
      exists_eq_left', ← Piece.filterMap_error?]
    cases pieces.filterMap Piece.error? with
    | nil =>
      simp only [reduceCtorEq, false_iff, not_and]
      exact fun hne heq => hne heq
    | cons error others =>
      simp only [Except.error.injEq]
      constructor
      · rintro rfl
        exact ⟨List.cons_ne_nil _ _, rfl⟩
      · rintro ⟨-, rfl⟩
        rfl

/-! ## The two ways of failing -/

/-- **Some tag is never closed.** That is the one thing told, at the end of the text, and a blank
and `%>` would have closed the tag and left no other open. -/
structure Unclosed (text : String) (errors : List SyntaxError) : Prop where
  unfound : Direct.tagsOf text = none
  told : errors = [⟨⟨Text.byteLength text.toList, Text.byteLength text.toList⟩,
    "Unexpected end of template", ["'%>'", "'-%>'"]⟩]
  closed : (Direct.tagsOf (text ++ " %>")).isSome = true

/-- **Every tag is closed, and some are invalid.** The errors are those of the invalid tags, in the
order of the text: none is left out, and no other tag has one. Each stands at a stretch of the text
from a `<%` to a `%>`, behind the one before it. -/
structure Misused (text : String) (tags : List Tag) (errors : List SyntaxError) : Prop where
  found : Direct.tagsOf text = some tags
  told : errors ≠ []
  each : errors = (tags.filter fun tag => tag.Invalid).map Tag.report
  placed : ∀ error ∈ errors, ∃ content, Text.At text.toList error.span content ∧
    ['<', '%'] <+: content ∧ ['%', '>'] <:+ content
  within : ∀ error ∈ errors, error.span.stop ≤ Text.byteLength text.toList
  ordered : errors.Pairwise fun first second =>
    first.span.start < second.span.start ∧ first.span.stop ≤ second.span.start

theorem TagKind.open_prefix (kind : TagKind) : ['<', '%'] <+: kind.source := by
  cases kind <;> decide

theorem Token.close_suffix (trims : Bool) : ['%', '>'] <:+ (Token.closer trims).source := by
  cases trims <;> decide

theorem Tag.source_prefix (tag : Tag) : ['<', '%'] <+: tag.source := by
  unfold Tag.source
  rw [List.append_assoc]
  exact tag.kind.open_prefix.trans (List.prefix_append _ _)

theorem Tag.source_suffix (tag : Tag) : ['%', '>'] <:+ tag.source :=
  (Token.close_suffix tag.trims).trans (List.suffix_append _ _)

/-- A tag is nowhere empty. -/
theorem Tag.start_lt_stop {text : List Char} {tag : Tag} (h : Text.At text tag.span tag.source) :
    tag.span.start < tag.span.stop := by
  have hpos : 0 < Text.byteLength tag.source :=
    Text.byteLength_pos (List.ne_nil_of_mem (tag.source_prefix.subset List.mem_cons_self))
  rw [h.stop_eq]
  omega

/-- **How parsing fails.** A text is refused exactly with the one error of an open tag or with those
of its invalid tags. -/
theorem parse_error_iff (text : String) (errors : List SyntaxError) :
    parse text = .error errors ↔ Unclosed text errors ∨ ∃ tags, Misused text tags errors := by
  rw [parse_error_iff_tags]
  constructor
  · rintro (⟨htags, herrors⟩ | ⟨tags, htags, hsome, herrors⟩)
    · refine .inl ⟨htags, herrors, ?_⟩
      have hclosed := Direct.tags_close htags
      rw [Direct.tagsOf, String.toList_append]
      exact hclosed
    · obtain ⟨hplaced, hordered⟩ := Direct.tagsOf_located htags
      have hreport : ∀ error ∈ errors, ∃ tag ∈ tags, tag.report = error := by
        intro error herror
        rw [herrors] at herror
        obtain ⟨tag, htag, heq⟩ := List.mem_map.mp herror
        exact ⟨tag, (List.mem_filter.mp htag).1, heq⟩
      refine .inr ⟨tags, htags, hsome, herrors, fun error herror => ?_, fun error herror => ?_, ?_⟩
      · obtain ⟨tag, htag, rfl⟩ := hreport error herror
        exact ⟨tag.source, hplaced tag htag, tag.source_prefix, tag.source_suffix⟩
      · obtain ⟨tag, htag, rfl⟩ := hreport error herror
        exact (hplaced tag htag).stop_le
      · rw [herrors, List.pairwise_map]
        refine (hordered.filter _).imp_of_mem fun {first second} hfirst _ hle => ⟨?_, hle⟩
        exact Nat.lt_of_lt_of_le
          (Tag.start_lt_stop (hplaced first (List.mem_filter.mp hfirst).1)) hle
  · rintro (h | ⟨tags, h⟩)
    · exact .inl ⟨h.unfound, h.told⟩
    · exact .inr ⟨tags, h.found, h.told, h.each⟩

/-- Of five tags, three are invalid: an empty one, one for code and one with a name of two bytes to
the character, the last two behind a closer that trims and over two lines. -/
example : parse "<%=%>é<%# <%= -%>\n<% a\n-%><%= version %><%= né <% %>" = .error
    [⟨⟨0, 5⟩, "empty output tag", ["field name"]⟩,
      ⟨⟨19, 27⟩, "code tags are not supported, use '<%=' to insert a field", []⟩,
      ⟨⟨41, 54⟩, "'né <%' is not a valid field name", ["field name"]⟩] := by
  decide +kernel

end Doxyfile.Template
