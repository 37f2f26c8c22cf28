import Doxyfile.Proofs.Context.Outcome
import Doxyfile.Proofs.Template.LineBreaks

/-!
# Rendering templates with other line breaks

A template without carriage returns and its form with a carriage return in front of each line feed
are rendered alike, whatever the values: both to a text or both not. The two texts are made of the
same values, and between them of the literal text as it stands in the one template and in the other
(`Context.render_crlf`). Line breaks in a value stay as they are.

When a text is rewritten, the names it asks for are the same, so it is refused when it was, for the
same reason (`Template.refusal?_rewrite`).
-/

namespace Doxyfile

open Template (Rewrite)

/-! ## Rewritten templates -/

/-- The error that rendering ends in, told of the new text. -/
def Template.Rewrite.refusal (rewrite : Rewrite) : RenderError → RenderError
  | .malformed errors => .malformed (errors.map rewrite.error)
  | .unresolved reference suggestions => .unresolved (rewrite.reference reference) suggestions

theorem Template.references_rewrite (rewrite : Rewrite) (segments : List Segment) :
    Template.references ⟨segments.map rewrite.segment⟩ =
      (Template.references ⟨segments⟩).map rewrite.reference := by
  have hreference : ∀ segment : Segment, (rewrite.segment segment).reference? =
      segment.reference?.map rewrite.reference := by
    intro segment
    cases segment <;> rfl
  simp only [Template.references, List.filterMap_map, Function.comp_def, hreference,
    ← List.map_filterMap]

/-- The first unknown name stays the first. -/
theorem Template.unknown?_rewrite (rewrite : Rewrite) (segments : List Segment) :
    Template.unknown? ⟨segments.map rewrite.segment⟩ =
      (Template.unknown? ⟨segments⟩).map rewrite.reference := by
  unfold Template.unknown?
  rw [Template.references_rewrite, List.find?_map]
  rfl

/-- **A rewritten text is refused when the old one was**, for the same reason. -/
theorem Template.refusal?_rewrite {rewrite : Rewrite} {old new : String}
    (h : Template.parse new = rewrite.outcome (Template.parse old)) :
    Template.refusal? new = (Template.refusal? old).map rewrite.refusal := by
  unfold Template.refusal?
  rw [h]
  cases Template.parse old with
  | error errors => rfl
  | ok template =>
    show (Template.unknown? ⟨template.segments.map rewrite.segment⟩).map _ = _
    rw [Template.unknown?_rewrite, Option.map_map, Option.map_map]
    rfl

namespace Context

/-- What is written for a segment when literal text is changed first. -/
def shownAs (change : String → String) (context : Context) : Segment → String
  | .text content => change content
  | .field reference => context.shown (.field reference)
  | .comment => context.shown .comment

/-- What is written for a template when its literal text is changed first, and nothing else. -/
def writtenAs (change : String → String) (context : Context) (template : Template) : String :=
  String.join (template.segments.map (context.shownAs change))

theorem written_eq_writtenAs (context : Context) (template : Template) :
    context.written template = context.writtenAs id template := by
  have hshown : context.shown = context.shownAs id := by
    funext segment
    cases segment <;> rfl
  rw [written, hshown, writtenAs]

theorem written_rewrite (rewrite : Rewrite) (old new : String) (values : Values)
    (template : Template) :
    (Context.mk new values).written ⟨template.segments.map rewrite.segment⟩ =
      (Context.mk old values).writtenAs rewrite.text template := by
  have hshown : (Context.mk new values).shown ∘ rewrite.segment =
      (Context.mk old values).shownAs rewrite.text := by
    funext segment
    cases segment <;> rfl
  rw [written, List.map_map, hshown, writtenAs]

/-! ## Other line breaks -/

/-- **Rendering does not depend on how line breaks are written.** A template without carriage
returns parses exactly when it does with one in front of each line feed, and its segments are then
the same but for the line breaks in texts, and for spans, which move by the line breaks in front of
them. For all values, both are rendered or neither is. The outputs are the same values between the
same texts, with the line breaks of the texts changed and no others; the errors tell of the same
defects or of the same name. -/
theorem render_crlf {template : String} (h : '\r' ∉ template.toList) :
    ((∃ parsed, Template.parse template = .ok parsed) ↔
      ∃ parsed, Template.parse (Text.toCrlf template) = .ok parsed) ∧
    (∀ parsed, Template.parse template = .ok parsed →
      Template.parse (Text.toCrlf template) =
        .ok ⟨parsed.segments.map (Rewrite.crlf template.toList).segment⟩) ∧
    ∀ values : Values,
      let context := Context.mk template values
      let changed := Context.mk (Text.toCrlf template) values
      ((∃ text, context.render = .ok text) ↔ ∃ text, changed.render = .ok text) ∧
      (∀ text, context.render = .ok text →
        ∃ parsed, Template.parse template = .ok parsed ∧ text = context.writtenAs id parsed ∧
          changed.render = .ok (context.writtenAs Text.toCrlf parsed)) ∧
      ∀ error, context.render = .error error →
        changed.render = .error ((Rewrite.crlf template.toList).refusal error) := by
  have hparse := Template.parse_crlf h
  have hrefusal := Template.refusal?_rewrite hparse
  have hok : ∀ parsed, Template.parse template = .ok parsed →
      Template.parse (Text.toCrlf template) =
        .ok ⟨parsed.segments.map (Rewrite.crlf template.toList).segment⟩ := by
    intro parsed hparsed
    rw [hparse, hparsed]
    rfl
  refine ⟨⟨fun ⟨parsed, hparsed⟩ => ⟨_, hok parsed hparsed⟩, fun ⟨parsed, hparsed⟩ => ?_⟩, hok,
    fun values => ⟨?_, fun text htext => ?_, fun error herror => ?_⟩⟩
  · cases hold : Template.parse template with
    | ok parsed => exact ⟨parsed, rfl⟩
    | error errors =>
      rw [hparse, hold] at hparsed
      cases hparsed
  · rw [exists_render_ok_iff, exists_render_ok_iff, hrefusal, Option.map_eq_none_iff]
  · obtain ⟨hnone, parsed, hparsed, hwritten⟩ := render_ok_iff.mp htext
    refine ⟨parsed, hparsed, hwritten.symm.trans (written_eq_writtenAs _ parsed), ?_⟩
    refine render_ok_iff.mpr ⟨?_, _, hok parsed hparsed, written_rewrite _ template _ values parsed⟩
    rw [hrefusal, hnone, Option.map_none]
  · rw [render_error_iff] at herror ⊢
    rw [hrefusal, herror, Option.map_some]

/-- Line breaks in texts, in tags and behind a closer that trims, and one in a value, where it
stays. -/
theorem render_crlf_breaks :
    let template := "\n<%=\nversion -%>\n\n<%#\n%>\n"
    let values : Values := { version := "1\n" }
    '\r' ∉ template.toList ∧ (Context.mk template values).render = .ok "\n1\n\n\n" ∧
      Template.parse (Text.toCrlf template) =
        .ok ⟨[.text "\r\n", .field ⟨"version", ⟨7, 14⟩⟩, .text "\r\n", .comment, .text "\r\n"]⟩ ∧
      (Context.mk (Text.toCrlf template) values).render = .ok "\r\n1\n\r\n\r\n" := by
  intro template values
  have hreturn : '\r' ∉ template.toList := by decide
  have hparse : Template.parse template =
      .ok ⟨[.text "\n", .field ⟨"version", ⟨5, 12⟩⟩, .text "\n", .comment, .text "\n"]⟩ := by
    decide +kernel
  have hrender : (Context.mk template values).render = .ok "\n1\n\n\n" := by decide +kernel
  obtain ⟨-, hsegments, hvalues⟩ := render_crlf hreturn
  obtain ⟨parsed, hparsed, -, hchanged⟩ := (hvalues values).2.1 _ hrender
  obtain rfl := Except.ok.inj (hparse.symm.trans hparsed)
  exact ⟨hreturn, hrender, (hsegments _ hparse).trans (by decide +kernel),
    hchanged.trans (by decide +kernel)⟩

end Context

end Doxyfile
