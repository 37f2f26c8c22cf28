import Doxyfile.Proofs.Context.Outcome
import Doxyfile.Proofs.Text.Edits

/-!
# How rendering fails

`Template.refusal?` decides whether a template is filled. This module says what it decides, in words
that no code occurs in: a template that does not parse is refused with everything wrong with it, any
other one exactly when it asks for a name outside of `Field.names`, and then for the first such
reference (`Template.FirstUnknown`).

What is offered for an unknown name is told by edits: the names in `Field.names` from which at most
`suggestionLimit` edits lead to it (`RenderError.suggest_eq_filter`). Two neighbours that changed
places are two edits, so a slip of that kind is always offered the name that was meant.
-/

namespace Doxyfile

/-! ## Known names -/

theorem Reference.isKnown_iff {reference : Reference} :
    reference.isKnown = true ↔ reference.name ∈ Field.names :=
  Field.ofName?_isSome_iff

theorem Context.field?_isSome_iff (context : Context) (name : String) :
    (context.field? name).isSome = true ↔ name ∈ Field.names := by
  rw [field?, Option.isSome_map, Field.ofName?_isSome_iff]

/-- **It is the first reference of the template with an unknown name.** -/
def Template.FirstUnknown (template : Template) (reference : Reference) : Prop :=
  ∃ before after, template.references = before ++ reference :: after ∧
    (∀ earlier ∈ before, earlier.name ∈ Field.names) ∧ reference.name ∉ Field.names

theorem Template.unknown?_eq_some_iff {template : Template} {reference : Reference} :
    template.unknown? = some reference ↔ template.FirstUnknown reference := by
  have hknown : ∀ other : Reference, (!other.isKnown) = true ↔ other.name ∉ Field.names := by
    intro other
    rw [Bool.not_eq_true', ← Bool.not_eq_true, Reference.isKnown_iff]
  unfold Template.unknown? Template.FirstUnknown
  rw [List.find?_eq_some_iff_append, hknown]
  constructor
  · rintro ⟨hreference, before, after, heq, hbefore⟩
    refine ⟨before, after, heq, fun earlier hearlier => ?_, hreference⟩
    have := hbefore earlier hearlier
    rwa [Bool.not_not, Reference.isKnown_iff] at this
  · rintro ⟨before, after, heq, hbefore, hreference⟩
    refine ⟨hreference, before, after, heq, fun earlier hearlier => ?_⟩
    rw [Bool.not_not, Reference.isKnown_iff]
    exact hbefore earlier hearlier

theorem Template.unknown?_eq_none_iff {template : Template} :
    template.unknown? = none ↔ ∀ reference ∈ template.references, reference.name ∈ Field.names := by
  unfold Template.unknown?
  rw [List.find?_eq_none]
  refine forall₂_congr fun reference _ => ?_
  rw [Bool.not_eq_true', Bool.not_eq_false, Reference.isKnown_iff]

/-! ## Suggestions -/

/-- **What is offered for a name**: the listed names that few edits turn into it, in their order. -/
theorem RenderError.suggest_eq_filter (name : String) :
    RenderError.suggest name = Field.names.filter fun candidate =>
      Text.WithinEdits suggestionLimit candidate.toList name.toList := by
  refine List.filter_congr fun candidate _ => ?_
  rw [decide_eq_decide, Text.distance_le_iff, Text.withinEdits_comm]

theorem RenderError.mem_suggest_iff {name candidate : String} :
    candidate ∈ RenderError.suggest name ↔
      candidate ∈ Field.names ∧ Text.WithinEdits suggestionLimit candidate.toList name.toList := by
  rw [RenderError.suggest_eq_filter, List.mem_filter, decide_eq_true_iff]

/-! ## The two ways of failing -/

/-- **A template is refused as malformed exactly when it does not parse.** -/
theorem Template.refusal?_malformed_iff {text : String} {errors : List Template.SyntaxError} :
    Template.refusal? text = some (.malformed errors) ↔ Template.parse text = .error errors := by
  unfold Template.refusal?
  cases Template.parse text with
  | error found => simp only [Option.some.injEq, RenderError.malformed.injEq, Except.error.injEq]
  | ok template =>
    show template.unknown?.map RenderError.ofUnknown = _ ↔ _
    cases template.unknown? with
    | none => simp only [Option.map_none, reduceCtorEq]
    | some reference =>
      simp only [Option.map_some, RenderError.ofUnknown, Option.some.injEq, reduceCtorEq]

/-- **A template that parses is refused for its first unknown reference.** -/
theorem Template.refusal?_unresolved_iff {text : String} {reference : Reference}
    {suggestions : List String} :
    Template.refusal? text = some (.unresolved reference suggestions) ↔
      ∃ template, Template.parse text = .ok template ∧ template.FirstUnknown reference ∧
        suggestions = RenderError.suggest reference.name := by
  unfold Template.refusal?
  cases Template.parse text with
  | error errors => simp only [Option.some.injEq, reduceCtorEq, false_and, exists_false]
  | ok template =>
    simp only [Except.ok.injEq, exists_eq_left', ← Template.unknown?_eq_some_iff,
      Option.map_eq_some_iff, RenderError.ofUnknown, RenderError.unresolved.injEq]
    constructor
    · rintro ⟨found, hfound, rfl, rfl⟩
      exact ⟨hfound, rfl⟩
    · rintro ⟨hfound, rfl⟩
      exact ⟨reference, hfound, rfl, rfl⟩

/-- It is not refused exactly when it parses and asks for known names only. -/
theorem Template.refusal?_eq_none_iff {text : String} :
    Template.refusal? text = none ↔
      ∃ template, Template.parse text = .ok template ∧
        ∀ reference ∈ template.references, reference.name ∈ Field.names := by
  unfold Template.refusal?
  cases Template.parse text with
  | error errors => simp only [reduceCtorEq, false_and, exists_false]
  | ok template =>
    simp only [Except.ok.injEq, exists_eq_left', Option.map_eq_none_iff,
      Template.unknown?_eq_none_iff]

/-! ## The law of failure -/

/-- **Exactly when rendering fails, and how.** It fails as malformed when the template does not
parse, with the errors of parsing. When the template parses, rendering is unresolved if some
reference asks for a name that is not listed, for the first one that does, and offers the listed
names that at most two edits turn into that one; otherwise it is the texts and the values in
template order. A value is found under exactly the listed names. No name is on offer for itself, and
a listed name with two neighbours swapped is on offer for what came of it. -/
theorem Context.render_law (context : Context) :
    (∀ errors, context.render = .error (.malformed errors) ↔
        Template.parse context.template = .error errors) ∧
      ((∃ reference suggestions, context.render = .error (.unresolved reference suggestions)) ↔
        ∃ template, Template.parse context.template = .ok template ∧
          ∃ reference ∈ template.references, reference.name ∉ Field.names) ∧
      (∀ reference suggestions, context.render = .error (.unresolved reference suggestions) ↔
        ∃ template, Template.parse context.template = .ok template ∧
          template.FirstUnknown reference ∧
          suggestions = Field.names.filter fun candidate =>
            Text.WithinEdits 2 candidate.toList reference.name.toList) ∧
      (∀ text, context.render = .ok text ↔
        ∃ template, Template.parse context.template = .ok template ∧
          (∀ reference ∈ template.references, reference.name ∈ Field.names) ∧
          text = String.join (template.segments.map context.shown)) ∧
      (∀ name, (context.field? name).isSome = true ↔ name ∈ Field.names) ∧
      ∀ reference suggestions, context.render = .error (.unresolved reference suggestions) →
        reference.name ∉ suggestions ∧
          (∀ name ∈ Field.names, Text.WithinEdits 2 name.toList reference.name.toList →
            name ∈ suggestions) ∧
          ∀ name ∈ Field.names, ∀ before c d after, name.toList = before ++ c :: d :: after →
            reference.name.toList = before ++ d :: c :: after → name ∈ suggestions := by
  have hunresolved : ∀ reference suggestions,
      context.render = .error (.unresolved reference suggestions) ↔
        ∃ template, Template.parse context.template = .ok template ∧
          template.FirstUnknown reference ∧ suggestions = RenderError.suggest reference.name := by
    intro reference suggestions
    rw [render_error_iff, Template.refusal?_unresolved_iff]
  refine ⟨fun errors => ?_, ?_, fun reference suggestions => ?_, fun text => ?_,
    context.field?_isSome_iff, fun reference suggestions h => ?_⟩
  · rw [render_error_iff, Template.refusal?_malformed_iff]
  · simp only [hunresolved]
    constructor
    · rintro ⟨reference, suggestions, template, hparse, ⟨before, after, heq, -, hname⟩, -⟩
      refine ⟨template, hparse, reference, ?_, hname⟩
      rw [heq]
      exact List.mem_append_right before List.mem_cons_self
    · rintro ⟨template, hparse, reference, hmem, hname⟩
      cases hunknown : template.unknown? with
      | none => exact absurd (Template.unknown?_eq_none_iff.mp hunknown reference hmem) hname
      | some first =>
        exact ⟨first, _, template, hparse, Template.unknown?_eq_some_iff.mp hunknown, rfl⟩
  · rw [hunresolved, RenderError.suggest_eq_filter]
    rfl
  · rw [render_ok_iff, Template.refusal?_eq_none_iff]
    constructor
    · rintro ⟨⟨template, hparse, hnames⟩, parsed, hparsed, rfl⟩
      obtain rfl : template = parsed := Except.ok.inj (hparse.symm.trans hparsed)
      exact ⟨template, hparse, hnames, rfl⟩
    · rintro ⟨template, hparse, hnames, rfl⟩
      exact ⟨⟨template, hparse, hnames⟩, template, hparse, rfl⟩
  · obtain ⟨template, hparse, ⟨-, -, -, -, hname⟩, rfl⟩ := (hunresolved _ _).mp h
    refine ⟨fun hself => hname (RenderError.mem_suggest_iff.mp hself).1,
      fun name hlisted hedits => RenderError.mem_suggest_iff.mpr ⟨hlisted, hedits⟩,
      fun name hlisted before c d after hbefore hafter => ?_⟩
    refine RenderError.mem_suggest_iff.mpr ⟨hlisted, 2, Nat.le_refl 2, ?_⟩
    rw [hbefore, hafter]
    exact Text.Edited.swap before after c d

/-- The second reference is the first unknown one, and what was meant is two neighbours away. -/
theorem Context.render_law_swapped :
    let context := Context.ofTemplate "<%= version %><%= ipnut %><%= nothing %>"
    context.render = .error (.unresolved ⟨"ipnut", ⟨18, 23⟩⟩ ["input"]) ∧
      Text.WithinEdits 2 "input".toList "ipnut".toList ∧ "input" ∈ ["input"] ∧
      "ipnut" ∉ ["input"] := by
  intro context
  have hrender : context.render = .error (.unresolved ⟨"ipnut", ⟨18, 23⟩⟩ ["input"]) :=
    render_error_iff.mpr (by decide +kernel)
  have hedits : Text.WithinEdits 2 "input".toList "ipnut".toList :=
    ⟨2, Nat.le_refl 2, Text.Edited.swap ['i'] ['u', 't'] 'n' 'p'⟩
  obtain ⟨hself, hnear, -⟩ := context.render_law.2.2.2.2.2 _ _ hrender
  exact ⟨hrender, hedits, hnear "input" (by decide) hedits, hself⟩

end Doxyfile
