import Doxyfile.Proofs.Context.Outcome
import Doxyfile.Proofs.Settings.Layering

/-!
# The history of a context

A context is changed by edits, and asked for its template, for what its fields hold, for a value by
name, for a rendering or a check. `Context.run` makes any number of such steps one after the other
and collects what they answer.

What a field holds afterwards is what the last step that writes it wrote (`Context.run_last_write`).
Which fields a step writes is said apart from what the step does, by `Step.written?`: an assignment
writes its own field, clearing writes the flag, settings write exactly the fields they set, be it to
an empty text or list, and no question writes anything. `Context.Shows` says of one field that what
it holds, what its getter gives and what is found under its name are one and the same value.
-/

namespace Doxyfile

/-! ## Written forms -/

/-- A value in its written form. -/
def Assignment.text : Assignment → String
  | .commitNumber text => text
  | .version text => text
  | .useMdfileAsMainpage flag => Values.flagText (some flag)
  | .input paths => PathList.joined paths
  | .examplePath paths => PathList.joined paths
  | .stripFromPath paths => PathList.joined paths

/-- **What is written for a field is the written form of what it holds.** -/
theorem Values.text_eq_held (values : Values) (field : Field) :
    values.text field = (values.held field).elim "" Assignment.text := by
  cases field with
  | useMdfileAsMainpage =>
    rw [text, held]
    cases values.useMdfileAsMainpage with
    | none => rfl
    | some flag => rfl
  | commitNumber => rfl
  | version => rfl
  | input => rfl
  | examplePath => rfl
  | stripFromPath => rfl

namespace Context

/-! ## Steps and answers -/

/-- What is done to a context, or asked of it. -/
inductive Step where
  /-- A change to the values, in place or in a copy that takes the place of the context. -/
  | edit (edit : Edit)
  | template
  /-- Asks for what a field holds. -/
  | get (field : Field)
  /-- Asks for a value by its name. -/
  | lookup (name : String)
  | render
  | check
deriving DecidableEq, Repr

/-- What a step answers. -/
inductive Answer where
  /-- A change has nothing to say. -/
  | done
  | text (text : String)
  | flag (flag : Option Bool)
  | found (text : Option String)
  | rendered (outcome : Except RenderError String)
  | checked (outcome : Except RenderError (List String))

/-- **What a step writes to a field**: nothing, a value, or that there is none. -/
def Step.written? (field : Field) : Step → Option (Option Assignment)
  | .edit (.assign assignment) =>
    if assignment.field = field then some (some assignment) else none
  | .edit .clearFlag => if field = .useMdfileAsMainpage then some none else none
  | .edit (.apply settings) => (settings.given field).map some
  | .template | .get _ | .lookup _ | .render | .check => none

/-- **The last of the steps to write a field writes this.** -/
def Step.LastWrite (field : Field) (steps : List Step) (value : Option Assignment) : Prop :=
  ∃ before step after, steps = before ++ step :: after ∧ step.written? field = some value ∧
    ∀ later ∈ after, later.written? field = none

/-- What a getter gives when its field holds a value: the flag itself, or the written form. -/
def Answer.ofHeld : Field → Option Assignment → Answer
  | .useMdfileAsMainpage, some (.useMdfileAsMainpage isSet) => .flag (some isSet)
  | .useMdfileAsMainpage, _ => .flag none
  | _, value => .text (value.elim "" Assignment.text)

/-- What the getter of a field gives. -/
def get (context : Context) : Field → Answer
  | .useMdfileAsMainpage => .flag context.values.useMdfileAsMainpage
  | field => .text (context.values.text field)

/-- One step: the context after it, and its answer. -/
def perform (context : Context) : Step → Context × Answer
  | .edit edit => (context.edit edit, .done)
  | .template => (context, .text context.template)
  | .get field => (context, context.get field)
  | .lookup name => (context, .found (context.field? name))
  | .render => (context, .rendered context.render)
  | .check => (context, .checked context.check)

/-- Steps one after the other: the context after the last, and the answers of all. -/
def run (context : Context) : List Step → Context × List Answer
  | [] => (context, [])
  | step :: steps =>
    let next := context.perform step
    let others := next.1.run steps
    (others.1, next.2 :: others.2)

/-- **A field holds a value, and shows it** to its getter and to those who look it up. -/
structure Shows (context : Context) (field : Field) (value : Option Assignment) : Prop where
  held : context.values.held field = value
  getter : context.get field = .ofHeld field value
  lookup : context.field? field.name = some (value.elim "" Assignment.text)

/-! ## What a field shows -/

/-- **A field shows what it holds.** -/
theorem shows_held (context : Context) (field : Field) :
    context.Shows field (context.values.held field) where
  held := rfl
  getter := by
    cases field with
    | useMdfileAsMainpage =>
      rw [get, Values.held]
      cases context.values.useMdfileAsMainpage with
      | none => rfl
      | some flag => rfl
    | commitNumber => rfl
    | version => rfl
    | input => rfl
    | examplePath => rfl
    | stripFromPath => rfl
  lookup := by
    rw [field?, Field.ofName?_name, Option.map_some, Values.text_eq_held]

/-! ## One step -/

/-- An edit writes what `Step.written?` says, and leaves every other field as it is. -/
theorem held_edit (context : Context) (edit : Edit) (field : Field) :
    (context.edit edit).values.held field =
      ((Step.edit edit).written? field).getD (context.values.held field) := by
  cases edit with
  | assign assignment =>
    show (context.values.assign assignment).held field = _
    rw [Values.held_assign, Step.written?]
    split <;> rfl
  | clearFlag => cases field <;> rfl
  | apply settings =>
    show (context.values.apply settings).held field = _
    rw [Values.held_apply, Step.written?]
    cases settings.given field <;> rfl

theorem held_perform (context : Context) (step : Step) (field : Field) :
    (context.perform step).1.values.held field =
      (step.written? field).getD (context.values.held field) := by
  cases step with
  | edit edit => exact context.held_edit edit field
  | template => rfl
  | get asked => rfl
  | lookup name => rfl
  | render => rfl
  | check => rfl

theorem template_perform (context : Context) (step : Step) :
    (context.perform step).1.template = context.template := by
  cases step with
  | edit edit => exact context.edit_template edit
  | template => rfl
  | get asked => rfl
  | lookup name => rfl
  | render => rfl
  | check => rfl

/-! ## A run of steps -/

/-- Some step is the last to write a field, or none writes it. -/
theorem lastWrite_or_unwritten (field : Field) (steps : List Step) :
    (∃ value, Step.LastWrite field steps value) ∨ ∀ step ∈ steps, step.written? field = none := by
  induction steps with
  | nil => exact .inr (fun _ h => nomatch h)
  | cons step steps ih =>
    rcases ih with ⟨value, before, last, after, rfl, hlast, hafter⟩ | hnone
    · exact .inl ⟨value, step :: before, last, after, rfl, hlast, hafter⟩
    · cases hstep : step.written? field with
      | some value => exact .inl ⟨value, [], step, steps, rfl, hstep, hnone⟩
      | none => exact .inr (List.forall_mem_cons.mpr ⟨hstep, hnone⟩)

theorem run_cons (context : Context) (step : Step) (steps : List Step) :
    (context.run (step :: steps)).1 = ((context.perform step).1.run steps).1 :=
  rfl

theorem template_run (context : Context) (steps : List Step) :
    (context.run steps).1.template = context.template := by
  induction steps generalizing context with
  | nil => rfl
  | cons step steps ih => rw [run_cons, ih, template_perform]

theorem run_append (context : Context) (before after : List Step) :
    (context.run (before ++ after)).1 = ((context.run before).1.run after).1 := by
  induction before generalizing context with
  | nil => rfl
  | cons step before ih => exact ih _

/-- **A field that no step writes is as it was.** -/
theorem held_run_of_unwritten {steps : List Step} {field : Field}
    (h : ∀ step ∈ steps, step.written? field = none) (context : Context) :
    (context.run steps).1.values.held field = context.values.held field := by
  induction steps generalizing context with
  | nil => rfl
  | cons step steps ih =>
    obtain ⟨hstep, hsteps⟩ := List.forall_mem_cons.mp h
    rw [run_cons, ih hsteps, held_perform, hstep, Option.getD_none]

/-- **A field holds what the last step to write it wrote.** -/
theorem held_run_of_lastWrite {steps : List Step} {field : Field} {value : Option Assignment}
    (h : Step.LastWrite field steps value) (context : Context) :
    (context.run steps).1.values.held field = value := by
  obtain ⟨before, step, after, rfl, hstep, hafter⟩ := h
  rw [run_append, run_cons, held_run_of_unwritten hafter, held_perform, hstep, Option.getD_some]

/-- The answers come one for each step. -/
theorem length_run (context : Context) (steps : List Step) :
    (context.run steps).2.length = steps.length := by
  induction steps generalizing context with
  | nil => rfl
  | cons step steps ih => exact congrArg (· + 1) (ih _)

/-- **A step is answered by the context that the steps before it have made.** -/
theorem getElem?_run (context : Context) (before : List Step) (step : Step) (after : List Step) :
    (context.run (before ++ step :: after)).2[before.length]? =
      some ((context.run before).1.perform step).2 := by
  induction before generalizing context with
  | nil => rfl
  | cons first before ih => exact ih _

/-- **The last writer wins**, over any steps from any start. The template is the one that the
context was made with. A field that some step writes shows what the last such step wrote, and one
that none writes shows what it held at the start. Every question on the way is answered from what
the steps before it have made, so no answer is about a value that has been replaced since. -/
theorem run_last_write (context : Context) (steps : List Step) :
    (context.run steps).1.template = context.template ∧
      (∀ field value, Step.LastWrite field steps value →
        (context.run steps).1.Shows field value) ∧
      (∀ field, (¬ ∃ value, Step.LastWrite field steps value) →
        (∀ step ∈ steps, step.written? field = none) ∧
          (context.run steps).1.Shows field (context.values.held field)) ∧
      (context.run steps).2.length = steps.length ∧
      ∀ before step after, steps = before ++ step :: after →
        (context.run steps).2[before.length]? = some ((context.run before).1.perform step).2 := by
  refine ⟨context.template_run steps, fun field value hlast => ?_, fun field hnone => ?_,
    context.length_run steps, ?_⟩
  · rw [← held_run_of_lastWrite hlast context]
    exact shows_held _ field
  · have hunwritten := (lastWrite_or_unwritten field steps).resolve_left hnone
    rw [← held_run_of_unwritten hunwritten context]
    exact ⟨hunwritten, shows_held _ field⟩
  · rintro before step after rfl
    exact context.getElem?_run before step after

/-- The list is replaced twice, the second time by settings that say nothing of the flag. The answer
in between is about the first list. -/
theorem run_last_write_replaced :
    let context := ofSettings "" { input := some ["old"], version := some "1" }
    let steps : List Step :=
      [.edit (.assign (.input ["a"])), .get .input, .edit (.assign (.useMdfileAsMainpage true)),
        .edit (.apply { input := some ["b", ""], commitNumber := some "" }), .render]
    Step.LastWrite .input steps (some (.input ["b", ""])) ∧
      (context.run steps).1.get .input = .text " b " ∧
      (context.run steps).1.get .useMdfileAsMainpage = .flag (some true) ∧
      (context.run steps).1.get .version = .text "1" ∧
      (context.run steps).2[1]? = some (.text " a") := by
  intro context steps
  obtain ⟨-, hwritten, hkept, -, hanswers⟩ := run_last_write context steps
  have hinput : Step.LastWrite .input steps (some (.input ["b", ""])) :=
    ⟨steps.take 3, _, [.render], rfl, rfl, by decide⟩
  have hflag : Step.LastWrite .useMdfileAsMainpage steps (some (.useMdfileAsMainpage true)) :=
    ⟨steps.take 2, _, steps.drop 3, rfl, rfl, by decide⟩
  have hversion : ¬ ∃ value, Step.LastWrite .version steps value := by
    rintro ⟨value, before, step, after, hsteps, hstep, -⟩
    have hnone : ∀ step ∈ steps, step.written? .version = none := by decide
    have hmem : step ∈ steps := hsteps ▸ List.mem_append_right before List.mem_cons_self
    rw [hnone step hmem] at hstep
    cases hstep
  exact ⟨hinput, (hwritten _ _ hinput).getter, (hwritten _ _ hflag).getter,
    (hkept _ hversion).2.getter, hanswers [_] _ (steps.drop 2) rfl⟩

end Context

end Doxyfile
