import Doxyfile.Context.Basic

/-!
# Settings laid over one another

A context can take settings one after the other, or all at once after they were merged. This module
says that the two are the same, for any number of settings and any bracketing of the merges
(`Context.apply_layers`). A bracketing is a tree, `Layers`; `Layers.merged` makes its merges from
the inside out and `Layers.inOrder` lists what is merged, the lowest first.

The six fields are read through one function for settings (`Settings.given`) and one for values
(`Values.held`), both of which answer with an `Assignment`. A merge, an assignment and an
application are each one equation about these readings, so a law about them is proved field by field
in one place, and ends in a law about `Option.or`. A reading tells an empty text or list from
nothing: what is set to it is set.
-/

namespace Doxyfile

/-! ## What settings and values hold for a field -/

/-- **What the settings give a field**, nothing when they leave it unset. -/
def Settings.given (settings : Settings) : Field → Option Assignment
  | .commitNumber => settings.commitNumber.map .commitNumber
  | .version => settings.version.map .version
  | .useMdfileAsMainpage => settings.useMdfileAsMainpage.map .useMdfileAsMainpage
  | .input => settings.input.map .input
  | .examplePath => settings.examplePath.map .examplePath
  | .stripFromPath => settings.stripFromPath.map .stripFromPath

/-- **What the values hold for a field**: of all fields, only the flag can be unset. -/
def Values.held (values : Values) : Field → Option Assignment
  | .commitNumber => some (.commitNumber values.commitNumber)
  | .version => some (.version values.version)
  | .useMdfileAsMainpage => values.useMdfileAsMainpage.map .useMdfileAsMainpage
  | .input => some (.input values.input)
  | .examplePath => some (.examplePath values.examplePath)
  | .stripFromPath => some (.stripFromPath values.stripFromPath)

namespace Settings

theorem given_empty (field : Field) : empty.given field = none := by
  cases field <;> rfl

theorem given_assign (settings : Settings) (assignment : Assignment) (field : Field) :
    (settings.assign assignment).given field =
      if assignment.field = field then some assignment else settings.given field := by
  cases assignment <;> cases field <;> rfl

/-- **Upper settings win field by field.** -/
theorem given_merge (lower upper : Settings) (field : Field) :
    (lower.merge upper).given field = (upper.given field).or (lower.given field) := by
  cases field <;> simp only [given, merge, Option.map_or]

theorem eq_of_given {settings others : Settings}
    (h : ∀ field, settings.given field = others.given field) : settings = others := by
  obtain ⟨commit, version, flag, input, example_, strip⟩ := settings
  obtain ⟨commit', version', flag', input', example_', strip'⟩ := others
  have hcommit := Option.map_injective (fun _ _ => Assignment.commitNumber.inj) (h .commitNumber)
  have hversion := Option.map_injective (fun _ _ => Assignment.version.inj) (h .version)
  have hflag := Option.map_injective (fun _ _ => Assignment.useMdfileAsMainpage.inj)
    (h .useMdfileAsMainpage)
  have hinput := Option.map_injective (fun _ _ => Assignment.input.inj) (h .input)
  have hexample := Option.map_injective (fun _ _ => Assignment.examplePath.inj) (h .examplePath)
  have hstrip := Option.map_injective (fun _ _ => Assignment.stripFromPath.inj) (h .stripFromPath)
  simp only at hcommit hversion hflag hinput hexample hstrip
  rw [hcommit, hversion, hflag, hinput, hexample, hstrip]

/-! ## The laws of merging -/

theorem empty_merge (settings : Settings) : empty.merge settings = settings := by
  apply eq_of_given
  intro field
  rw [given_merge, given_empty, Option.or_none]

theorem merge_empty (settings : Settings) : settings.merge empty = settings := by
  apply eq_of_given
  intro field
  rw [given_merge, given_empty, Option.none_or]

theorem merge_self (settings : Settings) : settings.merge settings = settings := by
  apply eq_of_given
  intro field
  rw [given_merge, Option.or_self]

theorem merge_assoc (lower middle upper : Settings) :
    (lower.merge middle).merge upper = lower.merge (middle.merge upper) := by
  apply eq_of_given
  intro field
  simp only [given_merge, Option.or_assoc]

/-- An assignment is a merge with settings of one field. -/
theorem merge_assign (settings : Settings) (assignment : Assignment) :
    settings.merge (empty.assign assignment) = settings.assign assignment := by
  apply eq_of_given
  intro field
  rw [given_merge, given_assign, given_assign, given_empty]
  split
  · exact Option.some_or
  · exact Option.none_or

/-- What a run of merges starts from lies below everything that the run merges. -/
theorem foldl_merge (settings : Settings) (sequence : List Settings) :
    sequence.foldl merge settings = settings.merge (sequence.foldl merge empty) := by
  induction sequence generalizing settings with
  | nil => exact (merge_empty settings).symm
  | cons next sequence ih =>
    rw [List.foldl_cons, List.foldl_cons, ih (settings.merge next), ih (empty.merge next),
      empty_merge, merge_assoc]

end Settings

/-! ## Bracketings -/

/-- Settings merged in some bracketing. -/
inductive Layers where
  /-- Settings by themselves. -/
  | one (settings : Settings)
  /-- Two bracketings, the second laid over the first. -/
  | stack (lower upper : Layers)
deriving DecidableEq, Repr

namespace Layers

/-- What the merges come to. -/
def merged : Layers → Settings
  | .one settings => settings
  | .stack lower upper => lower.merged.merge upper.merged

/-- The settings that are merged, the lowest first. -/
def inOrder : Layers → List Settings
  | .one settings => [settings]
  | .stack lower upper => lower.inOrder ++ upper.inOrder

/-- **The bracketing does not matter**: merging comes to what a run over the list does. -/
theorem merged_eq_foldl (layers : Layers) :
    layers.merged = layers.inOrder.foldl Settings.merge .empty := by
  induction layers with
  | one settings => exact (Settings.empty_merge settings).symm
  | stack lower upper ihLower ihUpper =>
    rw [merged, inOrder, List.foldl_append, ← ihLower, Settings.foldl_merge, ← ihUpper]

end Layers

/-! ## Applying settings -/

namespace Values

/-- **Applied settings win field by field** over the values that are there. -/
theorem held_apply (values : Values) (settings : Settings) (field : Field) :
    (values.apply settings).held field = (settings.given field).or (values.held field) := by
  obtain ⟨commit, version, flag, input, example_, strip⟩ := settings
  cases field with
  | commitNumber => cases commit <;> rfl
  | version => cases version <;> rfl
  | useMdfileAsMainpage => simp only [held, apply, Settings.given, Option.map_or]
  | input => cases input <;> rfl
  | examplePath => cases example_ <;> rfl
  | stripFromPath => cases strip <;> rfl

theorem held_assign (values : Values) (assignment : Assignment) (field : Field) :
    (values.assign assignment).held field =
      if assignment.field = field then some assignment else values.held field := by
  cases assignment <;> cases field <;> rfl

theorem eq_of_held {values others : Values} (h : ∀ field, values.held field = others.held field) :
    values = others := by
  obtain ⟨commit, version, flag, input, example_, strip⟩ := values
  obtain ⟨commit', version', flag', input', example_', strip'⟩ := others
  have hflag := Option.map_injective (fun _ _ => Assignment.useMdfileAsMainpage.inj)
    (h .useMdfileAsMainpage)
  obtain rfl := Assignment.commitNumber.inj (Option.some.inj (h .commitNumber))
  obtain rfl := Assignment.version.inj (Option.some.inj (h .version))
  obtain rfl := Assignment.input.inj (Option.some.inj (h .input))
  obtain rfl := Assignment.examplePath.inj (Option.some.inj (h .examplePath))
  obtain rfl := Assignment.stripFromPath.inj (Option.some.inj (h .stripFromPath))
  simp only at hflag
  rw [hflag]

theorem apply_empty (values : Values) : values.apply .empty = values := by
  apply eq_of_held
  intro field
  rw [held_apply, Settings.given_empty, Option.none_or]

/-- **Merged settings are applied like the lower and then the upper ones.** -/
theorem apply_merge (values : Values) (lower upper : Settings) :
    values.apply (lower.merge upper) = (values.apply lower).apply upper := by
  apply eq_of_held
  intro field
  simp only [held_apply, Settings.given_merge, Option.or_assoc]

theorem apply_assign (values : Values) (assignment : Assignment) :
    values.apply (Settings.empty.assign assignment) = values.assign assignment := by
  apply eq_of_held
  intro field
  rw [held_apply, held_assign, Settings.given_assign, Settings.given_empty]
  split
  · exact Option.some_or
  · exact Option.none_or

end Values

namespace Context

theorem apply_empty (context : Context) : context.apply .empty = context := by
  rw [apply, Values.apply_empty]

theorem apply_merge (context : Context) (lower upper : Settings) :
    context.apply (lower.merge upper) = (context.apply lower).apply upper := by
  rw [apply, Values.apply_merge]
  rfl

theorem apply_assign (context : Context) (settings : Settings) (assignment : Assignment) :
    context.apply (settings.assign assignment) = (context.apply settings).assign assignment := by
  rw [← Settings.merge_assign, apply_merge, apply, Values.apply_assign]
  rfl

/-- **Settings applied one after the other are applied like the run of their merges.** -/
theorem foldl_apply (context : Context) (sequence : List Settings) :
    sequence.foldl apply context = context.apply (sequence.foldl Settings.merge .empty) := by
  induction sequence generalizing context with
  | nil => exact context.apply_empty.symm
  | cons next sequence ih =>
    rw [List.foldl_cons, List.foldl_cons, ih, Settings.empty_merge, Settings.foldl_merge next,
      apply_merge]

theorem apply_foldl_assign (context : Context) (settings : Settings)
    (assignments : List Assignment) :
    context.apply (assignments.foldl Settings.assign settings) =
      assignments.foldl assign (context.apply settings) := by
  induction assignments generalizing settings with
  | nil => rfl
  | cons assignment assignments ih => rw [List.foldl_cons, List.foldl_cons, ih, apply_assign]

/-- **Settings are layers.** A context takes settings one after the other as it takes their merge,
in whatever bracketing the merges are made, also when there are none. Merging has empty settings as
its neutral element, is associative, and changes nothing when settings are laid over themselves. So
a context made from merged settings is one made from the lower and given the upper ones, and a
context made from settings that were built by assignments is a bare one after the same assignments.

In every merge and application an upper field that is set wins, and one that is unset lets the lower
one through. What an assignment sets is set, be it to the empty text or the empty list. -/
theorem apply_layers (context : Context) (template : String) :
    (∀ layers : Layers, layers.inOrder.foldl apply context = context.apply layers.merged) ∧
      (∀ sequence : List Settings,
        sequence.foldl apply context = context.apply (sequence.foldl Settings.merge .empty)) ∧
      (∀ settings : Settings, Settings.empty.merge settings = settings ∧
        settings.merge .empty = settings ∧ settings.merge settings = settings) ∧
      (∀ lower middle upper : Settings,
        (lower.merge middle).merge upper = lower.merge (middle.merge upper)) ∧
      (∀ lower upper : Settings,
        ofSettings template (lower.merge upper) = (ofSettings template lower).apply upper) ∧
      (∀ assignments : List Assignment,
        ofSettings template (assignments.foldl Settings.assign .empty) =
          assignments.foldl assign (ofTemplate template)) ∧
      (∀ (lower upper : Settings) (field : Field),
        (lower.merge upper).given field = (upper.given field).or (lower.given field) ∧
          (context.apply upper).values.held field =
            (upper.given field).or (context.values.held field)) ∧
      ∀ (settings : Settings) (assignment : Assignment),
        (settings.assign assignment).given assignment.field = some assignment ∧
          (context.apply (settings.assign assignment)).values.held assignment.field =
            some assignment := by
  refine ⟨fun layers => ?_, context.foldl_apply, fun settings => ?_, Settings.merge_assoc,
    (ofTemplate template).apply_merge, fun assignments => ?_, fun lower upper field => ?_,
    fun settings assignment => ?_⟩
  · rw [foldl_apply, Layers.merged_eq_foldl]
  · exact ⟨settings.empty_merge, settings.merge_empty, settings.merge_self⟩
  · rw [ofSettings, apply_foldl_assign, apply_empty]
  · exact ⟨lower.given_merge upper field, context.values.held_apply upper field⟩
  · have hgiven : (settings.assign assignment).given assignment.field = some assignment := by
      rw [Settings.given_assign, if_pos rfl]
    refine ⟨hgiven, ?_⟩
    show (context.values.apply _).held _ = _
    rw [Values.held_apply, hgiven, Option.some_or]

/-- An empty text and an empty list cover what is below them, an unset flag does not. -/
example :
    let lower : Settings := ⟨none, some "1.0", some true, some ["src"], none, none⟩
    let upper : Settings := ⟨none, some "", none, some [], none, none⟩
    ((ofSettings "" lower).apply upper).values = ⟨"", "", some true, [], [], []⟩ := by
  decide

end Context

end Doxyfile
