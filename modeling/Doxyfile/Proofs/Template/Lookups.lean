import Doxyfile.Template.Segment

/-!
# Lookups with a state

A template is filled by a lookup that is asked for one reference after the other. It may keep a
state, so that an answer depends on what was asked before, and it may reject a reference.

`Lookup.Answers` says of a lookup alone how it answers a list of references. `Template.run_fill`
tells from that what filling comes to: the lookup is asked for the references of the template in
their order, up to the first one that it rejects, and the output has each answer where it was asked
for. What a lookup is asked for is seen by one that writes it down (`Lookup.recorded`) and is the
same lookup otherwise.

Filling is one run over the segments, so it can be cut between any two of them
(`Segment.fillAll_append`).
-/

namespace Doxyfile

variable {σ ε : Type}

/-- A lookup that has a state and can reject a reference. -/
abbrev Lookup (σ ε : Type) := Reference → ExceptT ε (StateM σ) String

namespace Lookup

/-- What an action comes to in a state: a result or a rejection, and the state it leaves behind. -/
def run {α : Type} (action : ExceptT ε (StateM σ) α) (state : σ) : Except ε α × σ :=
  (action.run.run state).run

/-- **The lookup answers every one of the references**, asked for one after the other from a state
on; `last` is the state that it is in then. -/
inductive Answers (lookup : Lookup σ ε) : σ → List Reference → List String → σ → Prop where
  | nil (state : σ) : Answers lookup state [] [] state
  | cons {state next last : σ} {reference : Reference} {references : List Reference}
      {answer : String} {answers : List String}
      (first : run (lookup reference) state = (.ok answer, next))
      (others : Answers lookup next references answers last) :
      Answers lookup state (reference :: references) (answer :: answers) last

/-- **The lookup rejects one of the references**: it answers all that are in front of that one and
is not asked for any behind it. `asked` are those that it is asked for. -/
def Rejects (lookup : Lookup σ ε) (state : σ) (references asked : List Reference) (error : ε)
    (last : σ) : Prop :=
  ∃ before rejected after answers middle, references = before ++ rejected :: after ∧
    asked = before ++ [rejected] ∧ Answers lookup state before answers middle ∧
    run (lookup rejected) middle = (.error error, last)

/-- **The lookup that also writes down what it is asked for.** -/
def recorded (lookup : Lookup σ ε) : Lookup (List Reference × σ) ε := fun reference =>
  ExceptT.mk fun (calls, state) =>
    let (answer, next) := run (lookup reference) state
    (answer, calls ++ [reference], next)

end Lookup

/-- What is written for segments when the fields among them have these answers, one each. -/
def Segment.answered : List Segment → List String → List String
  | .text content :: segments, answers => content :: answered segments answers
  | .comment :: segments, answers => answered segments answers
  | .field _ :: segments, answer :: answers => answer :: answered segments answers
  | .field _ :: _, [] => []
  | [], _ => []

/-- Two templates filled one after the other, the second from the state that the first leaves. -/
def Template.fillInTurn {m : Type → Type} [Monad m] (lookup : Reference → m String)
    (first second : Template) : m String := do
  let start ← first.fill lookup
  let rest ← second.fill lookup
  pure (start ++ rest)

/-! ## One segment after the other -/

namespace Lookup

variable {α β : Type} {action : ExceptT ε (StateM σ) α} {next : α → ExceptT ε (StateM σ) β}
  {state last : σ}

/-- An action and then the next one, which is not reached behind a rejection. -/
theorem run_bind (action : ExceptT ε (StateM σ) α) (next : α → ExceptT ε (StateM σ) β)
    (state : σ) :
    run (action >>= next) state =
      match run action state with
      | (.ok result, after) => run (next result) after
      | (.error error, after) => (.error error, after) := by
  unfold run
  rw [ExceptT.run_bind, StateT.run_bind]
  rcases action.run.run state with ⟨_ | _, _⟩ <;> rfl

theorem run_bind_ok_iff {result : β} :
    run (action >>= next) state = (.ok result, last) ↔
      ∃ first after, run action state = (.ok first, after) ∧
        run (next first) after = (.ok result, last) := by
  rw [run_bind]
  constructor
  · intro h
    split at h
    next first after hfirst => exact ⟨first, after, hfirst, h⟩
    next => cases h
  · rintro ⟨first, after, hfirst, h⟩
    rw [hfirst]
    exact h

theorem run_bind_error_iff {error : ε} :
    run (action >>= next) state = (.error error, last) ↔
      run action state = (.error error, last) ∨
        ∃ first after, run action state = (.ok first, after) ∧
          run (next first) after = (.error error, last) := by
  rw [run_bind]
  constructor
  · intro h
    split at h
    next first after hfirst => exact .inr ⟨first, after, hfirst, h⟩
    next rejected after hrejected =>
      cases h
      exact .inl hrejected
  · rintro (h | ⟨first, after, hfirst, h⟩)
    · rw [h]
    · rw [hfirst]
      exact h

end Lookup

namespace Segment

variable {lookup : Lookup σ ε} {segment : Segment} {segments : List Segment} {state last : σ}

theorem run_fillAll_cons_ok_iff {text : String} :
    Lookup.run (fillAll lookup (segment :: segments)) state = (.ok text, last) ↔
      ∃ first after others, Lookup.run (segment.fill lookup) state = (.ok first, after) ∧
        Lookup.run (fillAll lookup segments) after = (.ok others, last) ∧
          text = first ++ others := by
  rw [fillAll, Lookup.run_bind_ok_iff]
  refine exists₂_congr fun first after => ?_
  rw [Lookup.run_bind_ok_iff, exists_and_left]
  refine and_congr_right fun _ => ?_
  constructor
  · rintro ⟨others, next, hothers, hpure⟩
    obtain ⟨hok, rfl⟩ := Prod.mk.inj hpure
    exact ⟨others, hothers, (Except.ok.inj hok).symm⟩
  · rintro ⟨others, hothers, rfl⟩
    exact ⟨others, last, hothers, rfl⟩

theorem run_fillAll_cons_error_iff {error : ε} :
    Lookup.run (fillAll lookup (segment :: segments)) state = (.error error, last) ↔
      Lookup.run (segment.fill lookup) state = (.error error, last) ∨
        ∃ first after, Lookup.run (segment.fill lookup) state = (.ok first, after) ∧
          Lookup.run (fillAll lookup segments) after = (.error error, last) := by
  rw [fillAll, Lookup.run_bind_error_iff]
  refine or_congr_right (exists₂_congr fun first after => and_congr_right fun _ => ?_)
  rw [Lookup.run_bind_error_iff]
  refine or_iff_left ?_
  rintro ⟨others, next, -, hpure⟩
  cases hpure

/-- **Filling succeeds** exactly when every reference is answered, and writes each answer where it
was asked for. -/
theorem run_fillAll_ok_iff {text : String} :
    Lookup.run (fillAll lookup segments) state = (.ok text, last) ↔
      ∃ answers, lookup.Answers state (Template.references ⟨segments⟩) answers last ∧
        text = String.join (answered segments answers) := by
  induction segments generalizing state text with
  | nil =>
    constructor
    · intro h
      cases h
      exact ⟨[], .nil _, rfl⟩
    · rintro ⟨answers, hanswers, rfl⟩
      cases hanswers
      rfl
  | cons segment segments ih =>
    rw [run_fillAll_cons_ok_iff]
    cases segment with
    | text content =>
      constructor
      · rintro ⟨first, after, others, hfirst, hothers, rfl⟩
        cases hfirst
        obtain ⟨answers, hanswers, rfl⟩ := ih.mp hothers
        exact ⟨answers, hanswers, String.join_cons.symm⟩
      · rintro ⟨answers, hanswers, rfl⟩
        exact ⟨content, state, _, rfl, ih.mpr ⟨answers, hanswers, rfl⟩, String.join_cons⟩
    | comment =>
      constructor
      · rintro ⟨first, after, others, hfirst, hothers, rfl⟩
        cases hfirst
        obtain ⟨answers, hanswers, rfl⟩ := ih.mp hothers
        exact ⟨answers, hanswers, String.empty_append⟩
      · rintro ⟨answers, hanswers, rfl⟩
        exact ⟨"", state, _, rfl, ih.mpr ⟨answers, hanswers, rfl⟩, String.empty_append.symm⟩
    | field reference =>
      constructor
      · rintro ⟨answer, after, others, hanswer, hothers, rfl⟩
        obtain ⟨answers, hanswers, rfl⟩ := ih.mp hothers
        exact ⟨answer :: answers, .cons hanswer hanswers, String.join_cons.symm⟩
      · rintro ⟨answers, hanswers, rfl⟩
        cases hanswers with
        | cons first others =>
          exact ⟨_, _, _, first, ih.mpr ⟨_, others, rfl⟩, String.join_cons⟩

/-- **Filling is rejected** exactly when some reference is, with its rejection. -/
theorem run_fillAll_error_iff {error : ε} :
    Lookup.run (fillAll lookup segments) state = (.error error, last) ↔
      ∃ asked, lookup.Rejects state (Template.references ⟨segments⟩) asked error last := by
  induction segments generalizing state with
  | nil =>
    constructor
    · intro h
      cases h
    · rintro ⟨asked, before, rejected, after, -, -, hreferences, -⟩
      exact absurd hreferences (by simp [Template.references])
  | cons segment segments ih =>
    rw [run_fillAll_cons_error_iff]
    cases segment with
    | text content =>
      constructor
      · rintro (h | ⟨first, after, hfirst, hothers⟩)
        · cases h
        · cases hfirst
          exact ih.mp hothers
      · intro h
        exact .inr ⟨content, state, rfl, ih.mpr h⟩
    | comment =>
      constructor
      · rintro (h | ⟨first, after, hfirst, hothers⟩)
        · cases h
        · cases hfirst
          exact ih.mp hothers
      · intro h
        exact .inr ⟨"", state, rfl, ih.mpr h⟩
    | field reference =>
      constructor
      · rintro (h | ⟨answer, next, hanswer, hothers⟩)
        · exact ⟨[reference], [], reference, _, [], state, rfl, rfl, .nil state, h⟩
        · obtain ⟨asked, before, rejected, after, answers, middle, hreferences, rfl, hanswers, h⟩ :=
            ih.mp hothers
          exact ⟨reference :: (before ++ [rejected]), reference :: before, rejected, after,
            answer :: answers, middle, congrArg (reference :: ·) hreferences, rfl,
            .cons hanswer hanswers, h⟩
      · rintro ⟨asked, before, rejected, after, answers, middle, hreferences, -, hanswers, h⟩
        cases hanswers with
        | nil =>
          obtain ⟨rfl, -⟩ := List.cons.inj hreferences
          exact .inl h
        | cons first others =>
          obtain ⟨rfl, htail⟩ := List.cons.inj hreferences
          exact .inr ⟨_, _, first, ih.mpr ⟨_, _, _, _, _, _, htail, rfl, others, h⟩⟩

/-- **Segments one behind the other** are filled one behind the other, in any monad. -/
theorem fillAll_append {m : Type → Type} [Monad m] [LawfulMonad m] (lookup : Reference → m String)
    (front back : List Segment) :
    fillAll lookup (front ++ back) = Template.fillInTurn lookup ⟨front⟩ ⟨back⟩ := by
  unfold Template.fillInTurn Template.fill
  induction front with
  | nil => simp only [List.nil_append, fillAll, pure_bind, String.empty_append, bind_pure]
  | cons segment front ih =>
    simp only [List.cons_append, fillAll, ih, bind_assoc, pure_bind, String.append_assoc]

end Segment

/-! ## What a lookup is asked for -/

namespace Lookup

variable {lookup : Lookup σ ε}

theorem run_recorded_iff {reference : Reference} {calls written : List Reference} {state last : σ}
    {result : Except ε String} :
    run (lookup.recorded reference) (calls, state) = (result, written, last) ↔
      written = calls ++ [reference] ∧ run (lookup reference) state = (result, last) := by
  show ((run (lookup reference) state).1, calls ++ [reference], (run (lookup reference) state).2) =
    (result, written, last) ↔ _
  simp only [Prod.ext_iff]
  constructor
  · rintro ⟨rfl, rfl, rfl⟩
    exact ⟨rfl, rfl, rfl⟩
  · rintro ⟨rfl, rfl, rfl⟩
    exact ⟨rfl, rfl, rfl⟩

/-- **The record of a lookup** is what it was asked for, behind what was written before. -/
theorem answers_recorded_iff {calls written : List Reference} {references : List Reference}
    {answers : List String} {state last : σ} :
    lookup.recorded.Answers (calls, state) references answers (written, last) ↔
      written = calls ++ references ∧ lookup.Answers state references answers last := by
  induction references generalizing calls answers state with
  | nil =>
    constructor
    · intro h
      cases h
      exact ⟨(List.append_nil _).symm, .nil _⟩
    · rintro ⟨rfl, h⟩
      cases h
      rw [List.append_nil]
      exact .nil _
  | cons reference references ih =>
    constructor
    · intro h
      cases h with
      | @cons _ next _ _ _ _ _ first others =>
        obtain ⟨asked, next⟩ := next
        obtain ⟨rfl, hfirst⟩ := run_recorded_iff.mp first
        obtain ⟨rfl, hothers⟩ := ih.mp others
        exact ⟨by rw [List.append_assoc, List.singleton_append], .cons hfirst hothers⟩
    · rintro ⟨rfl, h⟩
      cases h with
      | cons first others =>
        refine .cons (run_recorded_iff.mpr ⟨rfl, first⟩) (ih.mpr ⟨?_, others⟩)
        rw [List.append_assoc, List.singleton_append]

theorem rejects_recorded_iff {calls written references : List Reference} {state last : σ}
    {error : ε} :
    (∃ asked, lookup.recorded.Rejects (calls, state) references asked error (written, last)) ↔
      ∃ asked, written = calls ++ asked ∧ lookup.Rejects state references asked error last := by
  constructor
  · rintro ⟨asked, before, rejected, after, answers, middle, hreferences, rfl, hanswers, h⟩
    obtain ⟨passed, middle⟩ := middle
    obtain ⟨rfl, hplain⟩ := answers_recorded_iff.mp hanswers
    obtain ⟨rfl, hlast⟩ := run_recorded_iff.mp h
    exact ⟨before ++ [rejected], List.append_assoc _ _ _, before, rejected, after, answers, middle,
      hreferences, rfl, hplain, hlast⟩
  · rintro ⟨asked, rfl, before, rejected, after, answers, middle, hreferences, rfl, hanswers, h⟩
    exact ⟨before ++ [rejected], before, rejected, after, answers, (calls ++ before, middle),
      hreferences, rfl, answers_recorded_iff.mpr ⟨rfl, hanswers⟩,
      run_recorded_iff.mpr ⟨(List.append_assoc _ _ _).symm, h⟩⟩

end Lookup

/-- **Filling with any lookup.** Let a template be filled by a lookup that starts in some state and
writes down what it is asked for. Filling succeeds exactly when the lookup answers all references of
the template, asked for in their order; then it was asked for these, and the output is the segments
with each answer in the place of its reference. It is rejected exactly when the lookup rejects a
reference after answering all that are in front of it; then it was asked for these and the rejected
one, and the error is the rejection. Writing down changes neither the outcome nor the state. A
template that is cut between two segments is filled part by part, with the same outcome, state and
record. -/
theorem Template.run_fill (lookup : Lookup σ ε) (template : Template) (state : σ) :
    (∀ text calls last,
        Lookup.run (template.fill lookup.recorded) ([], state) = (.ok text, calls, last) ↔
          calls = template.references ∧
            ∃ answers, lookup.Answers state template.references answers last ∧
              text = String.join (Segment.answered template.segments answers)) ∧
      (∀ error calls last,
        Lookup.run (template.fill lookup.recorded) ([], state) = (.error error, calls, last) ↔
          lookup.Rejects state template.references calls error last) ∧
      (∀ result last, Lookup.run (template.fill lookup) state = (result, last) ↔
        ∃ calls, Lookup.run (template.fill lookup.recorded) ([], state) = (result, calls, last)) ∧
      ∀ front back : List Segment, template.segments = front ++ back →
        template.fill lookup = Template.fillInTurn lookup ⟨front⟩ ⟨back⟩ ∧
          template.fill lookup.recorded = Template.fillInTurn lookup.recorded ⟨front⟩ ⟨back⟩ := by
  have hok : ∀ text calls last,
      Lookup.run (template.fill lookup.recorded) ([], state) = (.ok text, calls, last) ↔
        calls = template.references ∧
          ∃ answers, lookup.Answers state template.references answers last ∧
            text = String.join (Segment.answered template.segments answers) := by
    intro text calls last
    rw [fill, Segment.run_fillAll_ok_iff]
    simp only [Lookup.answers_recorded_iff, List.nil_append, and_assoc, exists_and_left]
  have herror : ∀ error calls last,
      Lookup.run (template.fill lookup.recorded) ([], state) = (.error error, calls, last) ↔
        lookup.Rejects state template.references calls error last := by
    intro error calls last
    rw [fill, Segment.run_fillAll_error_iff, Lookup.rejects_recorded_iff]
    simp only [List.nil_append, exists_eq_left']
  refine ⟨hok, herror, fun result last => ?_, fun front back hsegments => ?_⟩
  · cases result with
    | ok text =>
      simp only [hok, exists_eq_left]
      exact Segment.run_fillAll_ok_iff
    | error error =>
      simp only [herror]
      exact Segment.run_fillAll_error_iff
  · rw [fill, fill, hsegments]
    exact ⟨Segment.fillAll_append _ _ _, Segment.fillAll_append _ _ _⟩

namespace Lookup

/-- The lookup that numbers its answers and rejects the reference behind the first `limit`. -/
def numbering (limit : Nat) : Lookup Nat Reference := fun reference =>
  ExceptT.mk fun count =>
    if count < limit then pure (.ok (reference.name ++ toString count), count + 1)
    else pure (.error reference, count)

end Lookup

/-- The text `{{ a }}-{{ a }}{# c #}{{ a }}`, with an answer of its own for each reference and with
the second one rejected. -/
theorem Template.run_fill_numbering :
    let template : Template := ⟨[.field ⟨"a", ⟨0, 7⟩⟩, .text "-", .field ⟨"a", ⟨8, 15⟩⟩, .comment,
      .field ⟨"a", ⟨22, 29⟩⟩]⟩
    Lookup.run (template.fill (Lookup.numbering 3).recorded) ([], 0) =
        (.ok "a0-a1a2", template.references, 3) ∧
      Lookup.run (template.fill (Lookup.numbering 1).recorded) ([], 0) =
        (.error ⟨"a", ⟨8, 15⟩⟩, template.references.take 2, 1) ∧
      template.fill (Lookup.numbering 3) =
        Template.fillInTurn (Lookup.numbering 3) ⟨template.segments.take 2⟩
          ⟨template.segments.drop 2⟩ := by
  intro template
  refine ⟨((run_fill (Lookup.numbering 3) template 0).1 _ _ _).mpr
      ⟨rfl, ["a0", "a1", "a2"], ?answered, rfl⟩,
    ((run_fill (Lookup.numbering 1) template 0).2.1 _ _ _).mpr
      ⟨[⟨"a", ⟨0, 7⟩⟩], _, _, ["a0"], 1, rfl, rfl, ?before, rfl⟩,
    ((run_fill (Lookup.numbering 3) template 0).2.2.2
      (template.segments.take 2) (template.segments.drop 2) rfl).1⟩
  case answered => exact .cons rfl (.cons rfl (.cons rfl (.nil 3)))
  case before => exact .cons rfl (.nil 1)

end Doxyfile
