import Mathlib.Algebra.Order.BigOperators.Group.List
import Mathlib.Algebra.Order.Group.Nat
import Doxyfile.Proofs.Context.Outcome

/-!
# What the output depends on

The output of a template depends on the fields that it refers to, on all of them and on nothing
else. `Context.render_depends` says so of two contexts that hold the same template: values of other
fields make no difference, and one differing value of a field that is referred to always makes one.

For the second half let the two outputs be the same text. The references to the differing field are
the only places where what is written can differ, so if its two values had different lengths, the
outputs would too (`Context.length_written_lt`). Hence all parts are as long as their counterparts,
and the outputs can be aligned part by part (`Text.eq_of_join_eq`). What the values look like plays
no part in this: they are copied and not read.
-/

namespace Doxyfile

/-- **Texts cut at the same lengths** that join to the same text are the same. -/
theorem Text.eq_of_join_eq {first second : List String}
    (hlength : first.map String.length = second.map String.length)
    (h : String.join first = String.join second) : first = second := by
  have hparts : first.map String.toList = second.map String.toList := by
    rw [List.eq_iff_flatten_eq]
    constructor
    · rw [← List.flatMap_def, ← List.flatMap_def, ← String.toList_join, ← String.toList_join, h]
    · simpa only [List.map_map, Function.comp_def, String.length_toList] using hlength
  exact List.map_injective_iff.mpr (fun _ _ => String.toList_inj.mp) hparts

namespace Context

variable {context other : Context} {template : Template} {name : String}

/-- **Segments are written alike** when their field, if there is one, is looked up alike. -/
theorem shown_congr {segment : Segment}
    (h : ∀ reference, segment = .field reference →
      context.field? reference.name = other.field? reference.name) :
    context.shown segment = other.shown segment := by
  cases segment with
  | text content => rfl
  | comment => rfl
  | field reference => rw [shown, shown, h reference rfl]

theorem shown_eq_or_field
    (hagree : ∀ reference ∈ template.references, reference.name ≠ name →
      context.field? reference.name = other.field? reference.name)
    {segment : Segment} (hsegment : segment ∈ template.segments) :
    context.shown segment = other.shown segment ∨
      ∃ reference, segment = .field reference ∧ reference.name = name := by
  by_cases hname : ∃ reference, segment = .field reference ∧ reference.name = name
  · exact .inr hname
  · refine .inl (shown_congr ?_)
    rintro reference rfl
    refine hagree reference (Template.field_mem_segments.mp hsegment) fun hreference => ?_
    exact hname ⟨reference, rfl, hreference⟩

theorem field?_eq_iff (context other : Context) (name : String) :
    context.field? name = other.field? name ↔
      (context.field? name).getD "" = (other.field? name).getD "" := by
  -- which fields there are is the same in all contexts
  unfold field?
  cases Field.ofName? name with
  | none => simp only [Option.map_none]
  | some field => simp only [Option.map_some, Option.some.injEq, Option.getD_some]

/-- A shorter value of the one field that differs makes the whole output shorter. -/
theorem length_written_lt
    (hagree : ∀ reference ∈ template.references, reference.name ≠ name →
      context.field? reference.name = other.field? reference.name)
    (hname : ∃ reference ∈ template.references, reference.name = name)
    (hlt : ((context.field? name).getD "").length < ((other.field? name).getD "").length) :
    (context.written template).length < (other.written template).length := by
  rw [written, written, String.length_join, String.length_join, List.map_map, List.map_map]
  apply List.sum_lt_sum
  · intro segment hsegment
    rcases shown_eq_or_field hagree hsegment with heq | ⟨reference, rfl, rfl⟩
    · exact Nat.le_of_eq (congrArg String.length heq)
    · exact Nat.le_of_lt hlt
  · obtain ⟨reference, hreference, rfl⟩ := hname
    exact ⟨.field reference, Template.field_mem_segments.mpr hreference, hlt⟩

/-- **A differing value shows in the output**, wherever and however often it is written. -/
theorem written_ne
    (hagree : ∀ reference ∈ template.references, reference.name ≠ name →
      context.field? reference.name = other.field? reference.name)
    (hname : ∃ reference ∈ template.references, reference.name = name)
    (hdiffer : (context.field? name).getD "" ≠ (other.field? name).getD "") :
    context.written template ≠ other.written template := by
  intro heq
  rcases Nat.lt_trichotomy ((context.field? name).getD "").length
    ((other.field? name).getD "").length with hlt | hlength | hgt
  · exact Nat.lt_irrefl _ (heq ▸ length_written_lt hagree hname hlt)
  · -- every part is as long as its counterpart, so the outputs are the same part by part
    have hparts : template.segments.map context.shown = template.segments.map other.shown := by
      refine Text.eq_of_join_eq ?_ heq
      rw [List.map_map, List.map_map]
      refine List.map_congr_left fun segment hsegment => ?_
      rcases shown_eq_or_field hagree hsegment with hshown | ⟨reference, rfl, rfl⟩
      · exact congrArg String.length hshown
      · exact hlength
    obtain ⟨reference, hreference, rfl⟩ := hname
    exact hdiffer (List.map_inj_left.mp hparts _ (Template.field_mem_segments.mpr hreference))
  · have hback : ∀ reference ∈ template.references, reference.name ≠ name →
        other.field? reference.name = context.field? reference.name :=
      fun reference hreference hne => (hagree reference hreference hne).symm
    exact Nat.lt_irrefl _ (heq ▸ length_written_lt hback hname hgt)

/-- **The output depends on the fields that are referred to and on nothing else.** Let the check of
a context name the fields of its template, and let another context hold that template. When both
look these fields up alike, they are rendered to the same text. When they differ in just one of
them, they are rendered to different texts. -/
theorem render_depends {names : List String} (hcheck : context.check = .ok names)
    (htemplate : other.template = context.template) :
    ((∀ asked ∈ names, context.field? asked = other.field? asked) →
        ∃ text, context.render = .ok text ∧ other.render = .ok text) ∧
      ∀ differing ∈ names,
        (∀ asked ∈ names, asked ≠ differing → context.field? asked = other.field? asked) →
          context.field? differing ≠ other.field? differing →
            ∃ text different, context.render = .ok text ∧ other.render = .ok different ∧
              text ≠ different := by
  obtain ⟨hrefusal, template, hparse, rfl⟩ := check_ok_iff.mp hcheck
  have hrender : context.render = .ok (context.written template) :=
    render_ok_iff.mpr ⟨hrefusal, template, hparse, rfl⟩
  have hother : other.render = .ok (other.written template) := by
    rw [render_ok_iff, htemplate]
    exact ⟨hrefusal, template, hparse, rfl⟩
  refine ⟨fun hagree => ?_, fun differing hmem hagree hdiffer => ?_⟩
  · have hwritten : context.written template = other.written template := by
      refine congrArg String.join (List.map_congr_left fun segment hsegment => ?_)
      refine shown_congr ?_
      rintro reference rfl
      exact hagree _ (List.mem_map_of_mem (Template.field_mem_segments.mp hsegment))
    exact ⟨context.written template, hrender, hwritten ▸ hother⟩
  · obtain ⟨reference, hreference, rfl⟩ := List.mem_map.mp hmem
    have hothers : ∀ found ∈ template.references, found.name ≠ reference.name →
        context.field? found.name = other.field? found.name := by
      intro found hfound hne
      exact hagree found.name (List.mem_map_of_mem hfound) hne
    refine ⟨_, _, hrender, hother, written_ne hothers ⟨reference, hreference, rfl⟩ ?_⟩
    rwa [Ne, ← field?_eq_iff]

/-- The values hold what looks like tags and like a line break, and one field is asked for twice. -/
theorem render_depends_tagged :
    let template := "<%= version %>-<%= input %>\n<%= version %>"
    let context : Context := ⟨template, { version := "<%= input %>", commitNumber := "7" }⟩
    let alike : Context := ⟨template, { version := "<%= input %>" }⟩
    let other : Context := ⟨template, { version := "- %>\n" }⟩
    (context.check = .ok ["version", "input", "version"] ∧
        context.field? "commit_number" ≠ alike.field? "commit_number" ∧
          ∃ text, context.render = .ok text ∧ alike.render = .ok text) ∧
      "version" ∈ ["version", "input", "version"] ∧
        context.field? "version" ≠ other.field? "version" ∧
          ∃ text different, context.render = .ok text ∧ other.render = .ok different ∧
            text ≠ different := by
  intro template context alike other
  have hcheck : context.check = .ok ["version", "input", "version"] := by
    decide +kernel
  have halike : alike.template = context.template := rfl
  have hother : other.template = context.template := rfl
  refine ⟨⟨hcheck, by decide, ?_⟩, by decide, by decide, ?_⟩
  · exact (render_depends hcheck halike).1 (by decide)
  · exact (render_depends hcheck hother).2 "version" (by decide) (by decide) (by decide)

end Context

end Doxyfile
