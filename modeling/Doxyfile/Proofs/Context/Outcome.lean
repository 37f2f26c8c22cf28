import Doxyfile.Context.Basic

/-!
# What decides whether a template is filled

Rendering and checking go over the references of a template in two ways: `Context.render` fills the
segments one after the other and stops at the first refusal, `Context.check` maps over the list of
references. Both stop at the same one, and nothing but the text of the template tells which.

`Template.refusal?` is that decision, made from the text alone. `Context.render_error_iff` and
`Context.check_error_iff` say that either way fails with exactly it, `Context.render_ok_iff` and
`Context.check_ok_iff` what there is when it does not refuse. Which names are known, and which are
offered for one that is not, is not looked into here.
-/

namespace Doxyfile

/-! ## The decision -/

/-- Whether some field has the name that is asked for. -/
def Reference.isKnown (reference : Reference) : Bool :=
  (Field.ofName? reference.name).isSome

/-- The first reference whose name no field has. -/
def Template.unknown? (template : Template) : Option Reference :=
  template.references.find? fun reference => !reference.isKnown

/-- The error that a reference with an unknown name ends in. -/
def RenderError.ofUnknown (reference : Reference) : RenderError :=
  .unresolved reference (RenderError.suggest reference.name)

/-- **Why a template is refused**, told from its text: it does not parse, or asks for a name that no
field has. -/
def Template.refusal? (text : String) : Option RenderError :=
  match Template.parse text with
  | .error errors => some (.malformed errors)
  | .ok template => template.unknown?.map RenderError.ofUnknown

/-- What is written for a segment. -/
def Context.shown (context : Context) : Segment → String
  | .text content => content
  | .field reference => (context.field? reference.name).getD ""
  | .comment => ""

/-- What is written for a template: its texts and the values of its references in its order. -/
def Context.written (context : Context) (template : Template) : String :=
  String.join (template.segments.map context.shown)

theorem Template.field_mem_segments {template : Template} {reference : Reference} :
    .field reference ∈ template.segments ↔ reference ∈ template.references := by
  rw [references, List.mem_filterMap]
  constructor
  · intro h
    exact ⟨.field reference, h, rfl⟩
  · rintro ⟨segment, hsegment, hreference⟩
    cases segment with
    | text content => cases hreference
    | comment => cases hreference
    | field found =>
      cases hreference
      exact hsegment

namespace Context

/-! ## One lookup -/

/-- **No value makes a lookup fail**: a field is found exactly when its name is known. -/
theorem field?_isSome (context : Context) (reference : Reference) :
    (context.field? reference.name).isSome = reference.isKnown := by
  unfold field? Reference.isKnown
  rw [Option.isSome_map]

theorem resolve_known {reference : Reference} (h : reference.isKnown = true) (context : Context) :
    context.resolve reference = .ok (context.shown (.field reference)) := by
  rw [← context.field?_isSome] at h
  obtain ⟨text, htext⟩ := Option.isSome_iff_exists.mp h
  simp only [resolve, shown, htext, Option.getD_some]

theorem resolve_unknown {reference : Reference} (h : reference.isKnown = false)
    (context : Context) : context.resolve reference = .error (.ofUnknown reference) := by
  have hnone : context.field? reference.name = none := by
    rw [← Option.not_isSome_iff_eq_none, field?_isSome, h]
    exact Bool.false_ne_true
  simp only [resolve, hnone, RenderError.ofUnknown]

/-! ## Both ways over the references -/

/-- **Filling stops at the first unknown reference**, and writes every segment if there is none. -/
theorem fillAll_resolve (context : Context) (segments : List Segment) :
    Segment.fillAll context.resolve segments =
      match Template.unknown? ⟨segments⟩ with
      | some reference => .error (.ofUnknown reference)
      | none => .ok (context.written ⟨segments⟩) := by
  induction segments with
  | nil => rfl
  | cons segment segments ih =>
    -- a segment that is no unknown reference leaves the decision to the segments behind it
    have hstep : ∀ first, segment.fill context.resolve = .ok first →
        Template.unknown? ⟨segment :: segments⟩ = Template.unknown? ⟨segments⟩ →
        context.shown segment = first →
        Segment.fillAll context.resolve (segment :: segments) =
          match Template.unknown? ⟨segment :: segments⟩ with
          | some reference => .error (.ofUnknown reference)
          | none => .ok (context.written ⟨segment :: segments⟩) := by
      intro first hfill hunknown hshown
      rw [Segment.fillAll, hfill, ih, hunknown]
      cases Template.unknown? ⟨segments⟩ with
      | some reference => rfl
      | none =>
        show Except.ok (first ++ context.written ⟨segments⟩) = _
        rw [written, written, List.map_cons, String.join_cons, hshown]
    cases segment with
    | text content => exact hstep content rfl rfl rfl
    | comment => exact hstep "" rfl rfl rfl
    | field reference =>
      cases hknown : reference.isKnown with
      | true =>
        refine hstep _ (context.resolve_known hknown) ?_ rfl
        exact List.find?_cons_of_neg (by rw [hknown]; exact Bool.false_ne_true)
      | false =>
        have hunknown : Template.unknown? ⟨.field reference :: segments⟩ = some reference :=
          List.find?_cons_of_pos (by rw [hknown]; rfl)
        rw [hunknown, Segment.fillAll]
        show (context.resolve reference).bind _ = _
        rw [context.resolve_unknown hknown]
        rfl

/-- **Checking stops at the first unknown reference**, and lists every name if there is none. -/
theorem mapM_resolve (context : Context) (references : List Reference) :
    (references.mapM fun reference => do
      let _ ← context.resolve reference
      pure reference.name) =
      match references.find? fun reference => !reference.isKnown with
      | some reference => .error (.ofUnknown reference)
      | none => .ok (references.map (·.name)) := by
  induction references with
  | nil => rfl
  | cons reference references ih =>
    rw [List.mapM_cons, ih]
    cases hknown : reference.isKnown with
    | true =>
      rw [context.resolve_known hknown,
        List.find?_cons_of_neg (by rw [hknown]; exact Bool.false_ne_true)]
      cases references.find? fun reference => !reference.isKnown with
      | some unknown => rfl
      | none => rfl
    | false =>
      rw [context.resolve_unknown hknown, List.find?_cons_of_pos (by rw [hknown]; rfl)]
      rfl

/-! ## The outcomes -/

/-- What either way comes to, when `answer` is what it gives for a template with no unknown name. -/
def outcome (text : String) (answer : Template → α) : Except RenderError α :=
  match Template.parse text with
  | .error errors => .error (.malformed errors)
  | .ok template =>
    match template.unknown? with
    | some reference => .error (.ofUnknown reference)
    | none => .ok (answer template)

theorem render_eq_outcome (context : Context) :
    context.render = outcome context.template context.written := by
  unfold render parsed outcome
  cases Template.parse context.template with
  | error errors => rfl
  | ok template => exact context.fillAll_resolve template.segments

theorem check_eq_outcome (context : Context) :
    context.check = outcome context.template fun template => template.references.map (·.name) := by
  unfold check parsed outcome
  cases Template.parse context.template with
  | error errors => rfl
  | ok template => exact context.mapM_resolve template.references

/-- An outcome is an error exactly when the text is refused, and then that error. -/
theorem outcome_error_iff {text : String} {answer : Template → α} {error : RenderError} :
    outcome text answer = .error error ↔ Template.refusal? text = some error := by
  unfold outcome Template.refusal?
  cases Template.parse text with
  | error errors => simp only [Except.error.injEq, Option.some.injEq]
  | ok template =>
    show (match template.unknown? with | some reference => _ | none => _) = _ ↔
      template.unknown?.map RenderError.ofUnknown = _
    cases template.unknown? with
    | some reference => simp only [Except.error.injEq, Option.map_some, Option.some.injEq]
    | none => simp only [Option.map_none, reduceCtorEq]

/-- An outcome is the answer for the parsed template, when the text is not refused. -/
theorem outcome_ok_iff {text : String} {answer : Template → α} {result : α} :
    outcome text answer = .ok result ↔
      Template.refusal? text = none ∧ ∃ template, Template.parse text = .ok template ∧
        answer template = result := by
  unfold outcome Template.refusal?
  cases Template.parse text with
  | error errors => simp only [reduceCtorEq, false_and]
  | ok template =>
    show (match template.unknown? with | some reference => _ | none => _) = _ ↔
      template.unknown?.map RenderError.ofUnknown = none ∧ _
    cases template.unknown? with
    | some reference => simp only [Option.map_some, reduceCtorEq, false_and]
    | none => simp only [Except.ok.injEq, Option.map_none, exists_eq_left', true_and]

/-- Some outcome is reached exactly when the text is not refused. -/
theorem exists_outcome_ok_iff {text : String} {answer : Template → α} :
    (∃ result, outcome text answer = .ok result) ↔ Template.refusal? text = none := by
  constructor
  · rintro ⟨result, h⟩
    exact (outcome_ok_iff.mp h).1
  · intro h
    cases hparse : Template.parse text with
    | error errors => simp only [Template.refusal?, hparse, reduceCtorEq] at h
    | ok template => exact ⟨answer template, outcome_ok_iff.mpr ⟨h, template, hparse, rfl⟩⟩

theorem render_error_iff {context : Context} {error : RenderError} :
    context.render = .error error ↔ Template.refusal? context.template = some error := by
  rw [render_eq_outcome, outcome_error_iff]

theorem check_error_iff {context : Context} {error : RenderError} :
    context.check = .error error ↔ Template.refusal? context.template = some error := by
  rw [check_eq_outcome, outcome_error_iff]

theorem render_ok_iff {context : Context} {text : String} :
    context.render = .ok text ↔
      Template.refusal? context.template = none ∧
        ∃ template, Template.parse context.template = .ok template ∧
          context.written template = text := by
  rw [render_eq_outcome, outcome_ok_iff]

theorem exists_render_ok_iff {context : Context} :
    (∃ text, context.render = .ok text) ↔ Template.refusal? context.template = none := by
  rw [render_eq_outcome, exists_outcome_ok_iff]

theorem exists_check_ok_iff {context : Context} :
    (∃ names, context.check = .ok names) ↔ Template.refusal? context.template = none := by
  rw [check_eq_outcome, exists_outcome_ok_iff]

theorem check_ok_iff {context : Context} {names : List String} :
    context.check = .ok names ↔
      Template.refusal? context.template = none ∧
        ∃ template, Template.parse context.template = .ok template ∧
          template.references.map (·.name) = names := by
  rw [check_eq_outcome, outcome_ok_iff]

/-! ## Edits -/

/-- An edit keeps the template. -/
theorem edit_template (context : Context) (edit : Edit) :
    (context.edit edit).template = context.template := by
  cases edit <;> rfl

/-- **A run of edits keeps the template.** -/
theorem foldl_edit_template (context : Context) (edits : List Edit) :
    (edits.foldl Context.edit context).template = context.template := by
  induction edits generalizing context with
  | nil => rfl
  | cons edit edits ih => rw [List.foldl_cons, ih, edit_template]

/-- **Checking predicts rendering, and only the template decides.** Whatever edits led to a context,
checking it succeeds exactly when rendering does, with the names of all references, and both fail
with the same error. Any other edits of any other values under the same template lead to the same
names, or to the same error. -/
theorem check_agrees_with_render (template : String) (values others : Values)
    (edits changes : List Edit) :
    let context := edits.foldl Context.edit ⟨template, values⟩
    let other := changes.foldl Context.edit ⟨template, others⟩
    ((∃ names, context.check = .ok names) ↔ ∃ text, context.render = .ok text) ∧
      (∀ error, context.check = .error error ↔ context.render = .error error) ∧
      (∀ names, context.check = .ok names ↔
        (∃ text, context.render = .ok text) ∧
          ∃ parsed, Template.parse template = .ok parsed ∧
            parsed.references.map (·.name) = names) ∧
      other.check = context.check ∧
      ((∃ text, other.render = .ok text) ↔ ∃ text, context.render = .ok text) ∧
      ∀ error, other.render = .error error ↔ context.render = .error error := by
  intro context other
  have hcontext : context.template = template := foldl_edit_template ⟨template, values⟩ edits
  have hother : other.template = template := foldl_edit_template ⟨template, others⟩ changes
  refine ⟨?_, fun error => ?_, fun names => ?_, ?_, ?_, fun error => ?_⟩
  · rw [exists_check_ok_iff, exists_render_ok_iff]
  · rw [check_error_iff, render_error_iff]
  · rw [check_ok_iff, exists_render_ok_iff, hcontext]
  · rw [check_eq_outcome, check_eq_outcome, hcontext, hother]
  · rw [exists_render_ok_iff, exists_render_ok_iff, hcontext, hother]
  · rw [render_error_iff, render_error_iff, hcontext, hother]

end Context

end Doxyfile
