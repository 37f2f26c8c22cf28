import Doxyfile.Proofs.Context.Joining
import Doxyfile.Proofs.Template.Renaming

/-!
# Repairing a template name by name

When rendering ends at an unknown name, the error says where the name stands. Writing the name of a
field there (`Context.repaired`) leaves the template as it was but for that reference, so it has one
unknown name less, and the next error, if there is one, is about a reference behind it.
`Context.render_repaired` says this of every context and every field, and follows the repairs to
their end: however the fields are chosen, there are as many to make as there were unknown names.
-/

namespace Doxyfile

/-- How many references of the template ask for a name that no field has. -/
def Template.unknowns (template : Template) : Nat :=
  template.names.countP (· ∉ Field.names)

/-- The context with the name of a field written over the name that rendering ends at. -/
def Context.repaired (context : Context) (name : String) : Context :=
  match context.render with
  | .error (.unresolved reference _) =>
    { context with template := Text.splice context.template reference.span name }
  | _ => context

theorem Field.isFieldName_of_mem_names :
    ∀ name ∈ Field.names, Template.isFieldName name.toList = true := by decide +kernel

namespace Template

/-! ## Unknown names around a reference -/

theorem references_append (before after : List Segment) :
    Template.references ⟨before ++ after⟩ =
      Template.references ⟨before⟩ ++ Template.references ⟨after⟩ :=
  List.filterMap_append

theorem unknowns_eq_zero_iff {template : Template} :
    template.unknowns = 0 ↔ ∀ name ∈ template.names, name ∈ Field.names := by
  simp only [unknowns, List.countP_eq_zero, decide_eq_true_eq, not_not]

theorem unknowns_field (before after : List Segment) (reference : Reference) :
    unknowns ⟨before ++ .field reference :: after⟩ = unknowns ⟨before⟩ + unknowns ⟨after⟩ +
      if reference.name ∈ Field.names then 0 else 1 := by
  have hnames : names ⟨before ++ .field reference :: after⟩ =
      names ⟨before⟩ ++ reference.name :: names ⟨after⟩ := by
    rw [names, references_append, List.map_append]
    rfl
  rw [unknowns, hnames, List.countP_append, List.countP_cons, ← Nat.add_assoc]
  by_cases hname : reference.name ∈ Field.names
  · simp only [hname, not_true, decide_false, if_true]
    rfl
  · simp only [hname, not_false_eq_true, decide_true, if_true, if_false]
    rfl

/-- **Segments that are moved ask for the same names.** -/
theorem unknowns_movedBy {distance : Int} {segments moved : List Segment}
    (h : List.Forall₂ (Segment.MovedBy distance) segments moved) :
    unknowns ⟨moved⟩ = unknowns ⟨segments⟩ := by
  have hnames : names ⟨moved⟩ = names ⟨segments⟩ := by
    induction h with
    | nil => rfl
    | cons hsegment _ ih =>
      cases hsegment with
      | text content => exact ih
      | comment => exact ih
      | field hname => exact congrArg₂ List.cons hname ih
  rw [unknowns, unknowns, hnames]

/-- **The first unknown reference is one of the segments**, and those in front of it ask for known
names only. -/
theorem FirstUnknown.exists_segments {template : Template} {reference : Reference}
    (h : template.FirstUnknown reference) :
    ∃ before after, template.segments = before ++ .field reference :: after ∧
      (∀ earlier ∈ Template.references ⟨before⟩, earlier.name ∈ Field.names) ∧
        reference.name ∉ Field.names := by
  obtain ⟨earlier, later, hreferences, hearlier, hname⟩ := h
  obtain ⟨front, back, hsegments, hfront, hback⟩ := List.filterMap_eq_append_iff.mp hreferences
  obtain ⟨skipped, found, after, rfl, hskipped, hfound, -⟩ := List.filterMap_eq_cons_iff.mp hback
  obtain rfl : found = .field reference := by
    cases found with
    | text content => cases hfound
    | comment => cases hfound
    | field other => exact congrArg Segment.field (Option.some.inj hfound)
  refine ⟨front ++ skipped, after, ?_, fun other hother => ?_, hname⟩
  · rw [hsegments, List.append_assoc]
  · have hnone : Template.references ⟨skipped⟩ = [] := List.filterMap_eq_nil_iff.mpr hskipped
    rw [references_append, hnone, List.append_nil] at hother
    exact hearlier other (hfront ▸ hother)

/-- **A first unknown reference is behind known ones.** -/
theorem FirstUnknown.mem_behind {before after : List Segment} {reference next : Reference}
    (h : FirstUnknown ⟨before ++ .field reference :: after⟩ next)
    (hbefore : ∀ earlier ∈ Template.references ⟨before⟩, earlier.name ∈ Field.names)
    (hreference : reference.name ∈ Field.names) : .field next ∈ after := by
  obtain ⟨earlier, later, hreferences, -, hnext⟩ := h
  have hmem : next ∈ Template.references ⟨before ++ .field reference :: after⟩ := by
    rw [hreferences]
    exact List.mem_append_right earlier List.mem_cons_self
  rw [references_append] at hmem
  rcases List.mem_append.mp hmem with hmem | hmem
  · exact absurd (hbefore next hmem) hnext
  · rcases List.mem_cons.mp hmem with rfl | hmem
    · exact absurd hreference hnext
    · exact field_mem_segments.mpr hmem

end Template

namespace Context

variable {context : Context} {template : Template}

/-! ## Rendering and unknown names -/

theorem exists_render_iff_unknowns (h : Template.parse context.template = .ok template) :
    (∃ text, context.render = .ok text) ↔ template.unknowns = 0 := by
  rw [render_eq_outcome, exists_outcome_ok_iff, refusal?_eq_none_iff_names,
    Template.unknowns_eq_zero_iff]
  simp only [h, Except.ok.injEq, exists_eq_left']

/-- **A template that parses is rendered or ends at an unknown name.** -/
theorem render_ok_or_unresolved (h : Template.parse context.template = .ok template) :
    (∃ text, context.render = .ok text) ∨
      ∃ reference, context.render = .error (.ofUnknown reference) := by
  simp only [render_eq_outcome, outcome, h]
  cases template.unknown? with
  | none => exact .inl ⟨_, rfl⟩
  | some reference => exact .inr ⟨reference, rfl⟩

theorem render_unresolved_iff {reference : Reference} {suggestions : List String} :
    context.render = .error (.unresolved reference suggestions) ↔
      ∃ template, Template.parse context.template = .ok template ∧
        template.FirstUnknown reference ∧ suggestions = RenderError.suggest reference.name := by
  rw [render_error_iff, Template.refusal?_unresolved_iff]

theorem repaired_of_unresolved {reference : Reference} {suggestions : List String}
    (h : context.render = .error (.unresolved reference suggestions)) (name : String) :
    context.repaired name =
      { context with template := Text.splice context.template reference.span name } := by
  simp only [repaired, h]

theorem repaired_of_ok {text : String} (h : context.render = .ok text) (name : String) :
    context.repaired name = context := by
  simp only [repaired, h]

/-! ## One repair and a run of them -/

/-- **What a repair makes of a template**, `reference` being the one that rendering ends at,
`before` what is in front of it and `after` what is behind it. The reference is renamed and `after`
is moved; one unknown name less is left, and the next to be reported is behind the repaired one. -/
structure Repair (context : Context) (reference : Reference) (before after : List Segment)
    (name : String) (later : List Segment) : Prop where
  written : context.repaired name =
    { context with template := Text.splice context.template reference.span name }
  parsed : Template.parse (context.repaired name).template =
    .ok ⟨before ++ .field (reference.renamed name) :: later⟩
  moved : List.Forall₂
    (Segment.MovedBy (Text.byteLength name.toList - Text.byteLength reference.name.toList))
    after later
  unknowns : Template.unknowns ⟨before ++ .field reference :: after⟩ =
    Template.unknowns ⟨before ++ .field (reference.renamed name) :: later⟩ + 1
  next : (∃ text, (context.repaired name).render = .ok text) ∨
    ∃ next, .field next ∈ later ∧ (context.repaired name).render = .error (.ofUnknown next)

/-- **The name of any field can be written** over the name that rendering ends at. -/
theorem exists_repair {reference : Reference} {suggestions : List String}
    (h : context.render = .error (.unresolved reference suggestions)) :
    ∃ before after,
      Template.parse context.template = .ok ⟨before ++ .field reference :: after⟩ ∧
      ∀ name ∈ Field.names, ∃ later, Repair context reference before after name later := by
  obtain ⟨template, hparse, hfirst, -⟩ := render_unresolved_iff.mp h
  obtain ⟨before, after, hsegments, hbefore, hunknown⟩ := hfirst.exists_segments
  obtain ⟨segments⟩ := template
  obtain rfl : segments = before ++ .field reference :: after := hsegments
  refine ⟨before, after, hparse, fun name hname => ?_⟩
  obtain ⟨later, hspliced, hmoved⟩ :=
    Template.parse_splice hparse (Field.isFieldName_of_mem_names name hname)
  have hwritten := repaired_of_unresolved h name
  have hparsed : Template.parse (context.repaired name).template =
      .ok ⟨before ++ .field (reference.renamed name) :: later⟩ := by
    rw [hwritten]
    exact hspliced
  refine ⟨later, hwritten, hparsed, hmoved, ?_, ?_⟩
  · have hknown : (reference.renamed name).name ∈ Field.names := hname
    rw [Template.unknowns_field, Template.unknowns_field, if_neg hunknown, if_pos hknown,
      Template.unknowns_movedBy hmoved]
  · rcases render_ok_or_unresolved hparsed with hok | ⟨next, hnext⟩
    · exact .inl hok
    · obtain ⟨template, htemplate, hfirst, -⟩ := render_unresolved_iff.mp hnext
      obtain rfl := Except.ok.inj (hparsed.symm.trans htemplate)
      exact .inr ⟨next, hfirst.mem_behind hbefore hname, hnext⟩

/-- **Every repair makes one unknown name less**, until there are none. -/
theorem exists_parse_foldl_repaired (choices : List String)
    (hchoices : ∀ name ∈ choices, name ∈ Field.names)
    (h : Template.parse context.template = .ok template) :
    ∃ left, Template.parse (choices.foldl repaired context).template = .ok left ∧
      left.unknowns = template.unknowns - choices.length := by
  induction choices generalizing context template with
  | nil => exact ⟨template, h, rfl⟩
  | cons name choices ih =>
    obtain ⟨hname, hothers⟩ := List.forall_mem_cons.mp hchoices
    rw [List.foldl_cons, List.length_cons]
    rcases render_ok_or_unresolved h with ⟨text, hok⟩ | ⟨reference, hunknown⟩
    · -- a rendered template has nothing to repair, and stays as it is
      have hnone : template.unknowns = 0 := (exists_render_iff_unknowns h).mp ⟨text, hok⟩
      obtain ⟨left, hleft, hcount⟩ := ih hothers h
      rw [repaired_of_ok hok]
      exact ⟨left, hleft, by omega⟩
    · obtain ⟨before, after, hparse, hstep⟩ := exists_repair hunknown
      obtain rfl := Except.ok.inj (hparse.symm.trans h)
      obtain ⟨later, hrepair⟩ := hstep name hname
      have hfewer := hrepair.unknowns
      obtain ⟨left, hleft, hcount⟩ := ih hothers hrepair.parsed
      exact ⟨left, hleft, by omega⟩

/-- **Repairs come to an end.** Let rendering end at an unknown name. The name of any field, one of
those on offer or another, can be written where the error says that the name stands (`Repair`).
However fields are chosen again and again, there are as many repairs to make as there were unknown
names, and then the template is rendered. -/
theorem render_repaired {reference : Reference} {suggestions : List String}
    (h : context.render = .error (.unresolved reference suggestions)) :
    ∃ before after,
      Template.parse context.template = .ok ⟨before ++ .field reference :: after⟩ ∧
      (∀ name ∈ suggestions, name ∈ Field.names) ∧
      (∀ name ∈ Field.names, ∃ later, Repair context reference before after name later) ∧
      ∀ choices : List String, (∀ name ∈ choices, name ∈ Field.names) →
        ((∃ text, (choices.foldl repaired context).render = .ok text) ↔
          Template.unknowns ⟨before ++ .field reference :: after⟩ ≤ choices.length) := by
  obtain ⟨before, after, hparse, hrepair⟩ := exists_repair h
  obtain ⟨-, -, -, rfl⟩ := render_unresolved_iff.mp h
  refine ⟨before, after, hparse, fun name hname => ?_, hrepair, fun choices hchoices => ?_⟩
  · exact (RenderError.mem_suggest_iff.mp hname).1
  · obtain ⟨left, hleft, hcount⟩ := exists_parse_foldl_repaired choices hchoices hparse
    rw [exists_render_iff_unknowns hleft, hcount, Nat.sub_eq_zero_iff_le]

/-- A name behind a blank of three bytes, in a tag that trims, and one more unknown name behind it.
The first repair moves that one by eight bytes, and one repair is not enough. -/
theorem render_repaired_wide :
    let context : Context :=
      ⟨"é<%=\u3000inptu -%>\n<%= nothing %>", { version := "2", commitNumber := "7" }⟩
    let reference : Reference := ⟨"inptu", ⟨8, 13⟩⟩
    let segments : List Segment :=
      [.text "é", .field reference, .field ⟨"nothing", ⟨22, 29⟩⟩]
    context.render = .error (.unresolved reference ["input"]) ∧
      Template.parse context.template = .ok ⟨segments⟩ ∧ Template.unknowns ⟨segments⟩ = 2 ∧
      Template.parse (context.repaired "commit_number").template = .ok ⟨[.text "é",
        .field ⟨"commit_number", ⟨8, 21⟩⟩, .field ⟨"nothing", ⟨30, 37⟩⟩]⟩ ∧
      (∃ before after later, Repair context reference before after "commit_number" later) ∧
      (¬ ∃ text, (["input"].foldl repaired context).render = .ok text) ∧
      ∃ text, (["commit_number", "version"].foldl repaired context).render = .ok text := by
  intro context reference segments
  have hrender : context.render = .error (.unresolved reference ["input"]) := by decide +kernel
  have hparse : Template.parse context.template = .ok ⟨segments⟩ := by decide +kernel
  have hcount : Template.unknowns ⟨segments⟩ = 2 := by decide
  obtain ⟨before, after, hparsed, hknown, hrepair, hrun⟩ := render_repaired hrender
  rw [Except.ok.inj (hparsed.symm.trans hparse), hcount] at hrun
  obtain ⟨later, hlater⟩ := hrepair "commit_number" (by decide)
  refine ⟨hrender, hparse, hcount, by decide +kernel, ⟨before, after, later, hlater⟩, ?_, ?_⟩
  · rw [hrun ["input"] hknown]
    decide
  · exact (hrun ["commit_number", "version"] (by decide)).mpr (Nat.le_refl 2)

end Context

end Doxyfile
