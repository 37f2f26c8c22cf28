import Mathlib.Control.Monad.Basic
import Doxyfile.Proofs.Context.Failure
import Doxyfile.Proofs.Template.Joining

/-!
# Rendering text by text

A long template can be rendered in parts and the outputs put together, if it is cut where a tag may
begin or around a comment. `Context.render_append` says so of every text that can stand behind any
other, and of every comment between two texts. What a template asks for (`Template.names`) and what
is written for it depends on its segments and not on their places, so both follow from what the
joined texts are read as.
-/

namespace Doxyfile

/-- The names that the template asks for, in its order. -/
def Template.names (template : Template) : List String :=
  template.references.map (·.name)

namespace Context

/-! ## Outcomes by names -/

theorem refusal?_eq_none_iff_names {text : String} :
    Template.refusal? text = none ↔
      ∃ template, Template.parse text = .ok template ∧
        ∀ name ∈ template.names, name ∈ Field.names := by
  simp only [Template.refusal?_eq_none_iff, Template.names, List.forall_mem_map]

theorem outcome_ok_iff_names {text : String} {answer : Template → α} {result : α} :
    outcome text answer = .ok result ↔
      ∃ template, Template.parse text = .ok template ∧
        (∀ name ∈ template.names, name ∈ Field.names) ∧ answer template = result := by
  rw [outcome_ok_iff, refusal?_eq_none_iff_names]
  constructor
  · rintro ⟨⟨template, hparse, hnames⟩, parsed, hparsed, rfl⟩
    obtain rfl : template = parsed := Except.ok.inj (hparse.symm.trans hparsed)
    exact ⟨template, hparse, hnames, rfl⟩
  · rintro ⟨template, hparse, hnames, rfl⟩
    exact ⟨⟨template, hparse, hnames⟩, template, hparse, rfl⟩

/-- **Texts that ask for the same names** and for which the same is written have the same
outcomes. -/
theorem outcome_congr {first second : String} {left right : Template} {answer : Template → α}
    (hfirst : Template.parse first = .ok left) (hsecond : Template.parse second = .ok right)
    (hnames : left.names = right.names) (hanswer : answer left = answer right) {result : α} :
    outcome first answer = .ok result ↔ outcome second answer = .ok result := by
  rw [outcome_ok_iff_names, outcome_ok_iff_names]
  simp only [hfirst, hsecond, Except.ok.injEq, exists_eq_left', hnames, hanswer]

/-! ## Names and outputs of joined segments -/

theorem names_shift (distance : Nat) (segments : List Segment) :
    Template.names ⟨segments.map (Segment.shift distance)⟩ = Template.names ⟨segments⟩ := by
  have hreference : ∀ segment : Segment, (segment.shift distance).reference? =
      segment.reference?.map (Reference.shift distance) := by
    intro segment
    cases segment <;> rfl
  simp only [Template.names, Template.references, List.filterMap_map, Function.comp_def,
    hreference, ← List.map_filterMap, List.map_map]
  rfl

theorem written_shift (context : Context) (distance : Nat) (segments : List Segment) :
    context.written ⟨segments.map (Segment.shift distance)⟩ = context.written ⟨segments⟩ := by
  have hshown : context.shown ∘ Segment.shift distance = context.shown := by
    funext segment
    cases segment <;> rfl
  rw [written, written, List.map_map, hshown]

theorem names_join (segments others : List Segment) :
    Template.names ⟨Segment.join segments others⟩ =
      Template.names ⟨segments⟩ ++ Template.names ⟨others⟩ := by
  fun_induction Segment.join segments others with
  | case1 first next rest => rfl
  | case2 others => rfl
  | case3 segment segments others _ ih =>
    cases segment with
    | text content => exact ih
    | comment => exact ih
    | field reference => exact congrArg (reference.name :: ·) ih

theorem written_join (context : Context) (segments others : List Segment) :
    context.written ⟨Segment.join segments others⟩ =
      context.written ⟨segments⟩ ++ context.written ⟨others⟩ := by
  simp only [written]
  fun_induction Segment.join segments others with
  | case1 first next rest =>
    simp only [List.map_cons, List.map_nil, String.join_cons, String.join_nil, shown,
      String.append_empty, String.append_assoc]
  | case2 others => rw [List.map_nil, String.join_nil, String.empty_append]
  | case3 segment segments others _ ih =>
    simp only [List.map_cons, String.join_cons, ih, String.append_assoc]

/-! ## Outcomes of joined texts -/

/-- **The whole asks for what its parts ask for**, and what is written for it is what is written for
them. -/
structure Composed (left right whole : Template) : Prop where
  names : whole.names = left.names ++ right.names
  written : ∀ context : Context,
    context.written whole = context.written left ++ context.written right

theorem composed_join (left right : Template) (distance : Nat) :
    Composed left right
      ⟨Segment.join left.segments (right.segments.map (Segment.shift distance))⟩ where
  names := by rw [names_join, names_shift]
  written := fun context => by rw [written_join, written_shift]

theorem composed_comment (left right : Template) (distance : Nat) :
    Composed left right
      ⟨left.segments ++ .comment :: right.segments.map (Segment.shift distance)⟩ := by
  have hjoin : left.segments ++ .comment :: right.segments.map (Segment.shift distance) =
      Segment.join left.segments (.comment :: right.segments.map (Segment.shift distance)) :=
    (Segment.join_of_head? (fun _ => by simp) left.segments).symm
  constructor
  · rw [hjoin, names_join]
    exact congrArg (left.names ++ ·) (names_shift distance right.segments)
  · intro context
    have hcomment : context.written ⟨.comment :: right.segments.map (Segment.shift distance)⟩ =
        context.written ⟨right.segments.map (Segment.shift distance)⟩ := by
      simp only [written, List.map_cons, String.join_cons, shown, String.empty_append]
    rw [hjoin, written_join, hcomment, written_shift]

/-- **The whole is rendered and checked as its two parts**, with any values. -/
def Concatenates (first second whole : String) : Prop :=
  ∀ values : Values,
    (∀ shown others, (Context.mk first values).render = .ok shown →
      (Context.mk second values).render = .ok others →
        (Context.mk whole values).render = .ok (shown ++ others)) ∧
    ∀ names others, (Context.mk first values).check = .ok names →
      (Context.mk second values).check = .ok others →
        (Context.mk whole values).check = .ok (names ++ others)

theorem outcome_append [Append α] {first second whole : String} {answer : Template → α}
    (h : ∀ left right, Template.parse first = .ok left → Template.parse second = .ok right →
      ∃ template, Template.parse whole = .ok template ∧ template.names = left.names ++ right.names ∧
        answer template = answer left ++ answer right)
    {result others : α} (hfirst : outcome first answer = .ok result)
    (hsecond : outcome second answer = .ok others) :
    outcome whole answer = .ok (result ++ others) := by
  obtain ⟨left, hleft, hknown, rfl⟩ := outcome_ok_iff_names.mp hfirst
  obtain ⟨right, hright, hothers, rfl⟩ := outcome_ok_iff_names.mp hsecond
  obtain ⟨template, hparse, hnames, hanswer⟩ := h left right hleft hright
  refine outcome_ok_iff_names.mpr ⟨template, hparse, ?_, hanswer⟩
  intro name hname
  rw [hnames] at hname
  rcases List.mem_append.mp hname with hname | hname
  · exact hknown name hname
  · exact hothers name hname

theorem concatenates_of_parse {first second whole : String}
    (h : ∀ left right, Template.parse first = .ok left → Template.parse second = .ok right →
      ∃ template, Template.parse whole = .ok template ∧ Composed left right template) :
    Concatenates first second whole := by
  intro values
  constructor
  · intro shown others hshown hothers
    rw [render_eq_outcome] at hshown hothers ⊢
    refine outcome_append (fun left right hleft hright => ?_) hshown hothers
    obtain ⟨template, hparse, hcomposed⟩ := h left right hleft hright
    exact ⟨template, hparse, hcomposed.names, hcomposed.written _⟩
  · intro names others hnames hothers
    rw [check_eq_outcome] at hnames hothers ⊢
    refine outcome_append (fun left right hleft hright => ?_) hnames hothers
    obtain ⟨template, hparse, hcomposed⟩ := h left right hleft hright
    exact ⟨template, hparse, hcomposed.names, hcomposed.names⟩

/-- **Templates are rendered part by part.** A second text that is empty or begins with `<` or `-`
can be put behind any first. If both parse, the whole parses to their segments, joined, with the
places of the second moved by the length of the first, so outputs and checked names of the whole
are those of the parts, one after the other. If no tag is open in either, the errors of the whole
are those of the parts.

Between any two texts that parse, a comment is a segment of its own and changes nothing else. Of
what it holds nothing is seen in an output but, for references behind it, where they stand. -/
theorem render_append (first second : String) :
    (Template.Separate second.toList →
        (∀ left right, Template.parse first = .ok left → Template.parse second = .ok right →
          Template.parse (first ++ second) = .ok ⟨Segment.join left.segments
            (right.segments.map (Segment.shift (Text.byteLength first.toList)))⟩) ∧
        Concatenates first second (first ++ second) ∧
        (Template.Closed first → Template.Closed second →
          Template.errors (first ++ second) = Template.errors first ++
            (Template.errors second).map
              (Template.SyntaxError.shift (Text.byteLength first.toList)))) ∧
      ∀ content, Template.Written.Closable content →
        let comment := Template.comment content
        (∀ left right, Template.parse first = .ok left → Template.parse second = .ok right →
          Template.parse (first ++ comment ++ second) = .ok ⟨left.segments ++ .comment ::
            right.segments.map (Segment.shift (Text.byteLength (first ++ comment).toList))⟩) ∧
        Concatenates first second (first ++ comment ++ second) ∧
        ∀ other, Template.Written.Closable other →
          ∀ left right, Template.parse first = .ok left → Template.parse second = .ok right →
            ∀ (values : Values) (shown : String),
              (Context.mk (first ++ comment ++ second) values).render = .ok shown ↔
                (Context.mk (first ++ Template.comment other ++ second) values).render =
                  .ok shown := by
  refine ⟨fun hseparate => ⟨fun left right hleft hright => ?_, ?_, fun hfirst hsecond => ?_⟩,
    fun content hcontent => ⟨fun left right hleft hright => ?_, ?_,
      fun other hother left right hleft hright values shown => ?_⟩⟩
  · exact Template.parse_append hleft hright hseparate
  · refine concatenates_of_parse fun left right hleft hright => ?_
    exact ⟨_, Template.parse_append hleft hright hseparate, composed_join left right _⟩
  · exact Template.errors_append hfirst hsecond hseparate
  · exact Template.parse_append_comment hleft hright hcontent
  · refine concatenates_of_parse fun left right hleft hright => ?_
    exact ⟨_, Template.parse_append_comment hleft hright hcontent, composed_comment left right _⟩
  · have hone := Template.parse_append_comment hleft hright hcontent
    have htwo := Template.parse_append_comment hleft hright hother
    have hcomposed := composed_comment left right
    rw [render_eq_outcome, render_eq_outcome]
    refine outcome_congr hone htwo ?_ ?_
    · rw [(hcomposed _).names, (hcomposed _).names]
    · exact ((hcomposed _).written _).trans ((hcomposed _).written _).symm

/-- A cut behind a closer that trims, in front of an escape; two parts with a fault in each; and a
comment that holds an opener, with a line break behind it that stays. -/
theorem render_append_trimmed :
    let first := "é <%= version -%>"
    let second := "<%% <%= input %>"
    let content := [' ', '<', '%', '=', ' ', '%']
    let values : Values := ⟨"", "1", none, ["a"], [], []⟩
    (Template.Separate second.toList ∧
        Template.parse first = .ok ⟨[.text "é ", .field ⟨"version", ⟨7, 14⟩⟩]⟩ ∧
        Template.parse second = .ok ⟨[.text "<% ", .field ⟨"input", ⟨8, 13⟩⟩]⟩ ∧
        Template.parse (first ++ second) = .ok ⟨[.text "é ", .field ⟨"version", ⟨7, 14⟩⟩,
          .text "<% ", .field ⟨"input", ⟨26, 31⟩⟩]⟩ ∧
        (Context.mk first values).render = .ok "é 1" ∧
        (Context.mk second values).render = .ok "<%  a" ∧
        (Context.mk (first ++ second) values).render = .ok "é 1<%  a") ∧
      (Template.Closed "<% x %>" ∧ Template.Closed "-<%= %>" ∧
        Template.errors ("<% x %>" ++ "-<%= %>") = [Template.Defect.codeTag.at ⟨0, 7⟩,
          Template.Defect.emptyOutput.at ⟨8, 14⟩]) ∧
      Template.Written.Closable content ∧
        (Context.mk "\n" values).render = .ok "\n" ∧
        (Context.mk (first ++ Template.comment content ++ "\n") values).render = .ok "é 1\n" := by
  intro first second content values
  have hseparate : Template.Separate second.toList := by decide
  have hleft : Template.parse first = .ok ⟨[.text "é ", .field ⟨"version", ⟨7, 14⟩⟩]⟩ := by
    decide +kernel
  have hright : Template.parse second = .ok ⟨[.text "<% ", .field ⟨"input", ⟨8, 13⟩⟩]⟩ := by
    decide +kernel
  have hfirst : (Context.mk first values).render = .ok "é 1" := by decide +kernel
  have hsecond : (Context.mk second values).render = .ok "<%  a" := by decide +kernel
  have hbreak : (Context.mk "\n" values).render = .ok "\n" := by decide +kernel
  have hclosable : Template.Written.Closable content :=
    ⟨by decide, by decide, by decide, by decide⟩
  have hcode : Template.Closed "<% x %>" := by decide +kernel
  have hempty : Template.Closed "-<%= %>" := by decide +kernel
  have hcut := (render_append first second).1 hseparate
  have hfaults := (render_append "<% x %>" "-<%= %>").1 (by decide)
  have hcomment := (render_append first "\n").2 content hclosable
  refine ⟨⟨hseparate, hleft, hright, ?_, hfirst, hsecond, ?_⟩, ⟨hcode, hempty, ?_⟩, hclosable,
    hbreak, ?_⟩
  · exact (hcut.1 _ _ hleft hright).trans (by decide +kernel)
  · exact (hcut.2.1 values).1 _ _ hfirst hsecond
  · exact (hfaults.2.2 hcode hempty).trans (by decide +kernel)
  · exact (hcomment.2.1 values).1 _ _ hfirst hbreak

end Context

end Doxyfile
