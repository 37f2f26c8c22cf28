import Doxyfile.CommandLine.Run
import Doxyfile.Proofs.CommandLine.Items
import Doxyfile.Proofs.Files.Writing

/-!
# What a run reads, and what it does then

A run on a machine has two parts. It reads its settings and its template, which changes nothing
(`Machine.prepare`), and then it checks, or it renders and delivers. `Machine.perform_run` takes a
run apart into the two, and `Machine.respond_cases` says what there is besides runs.

`Machine.Loads` and `Machine.Supplies` say what there is to read: reading succeeds when there are
settings and a template, and ends the run otherwise (`Machine.reads_or_failure`). What is rendered
then is the template's text with the values that the items of the command line and the settings make
(`Item.context`).
-/

namespace Doxyfile

open CommandLine

/-! ## Outcomes -/

namespace CommandLine.Outcome

/-- What a run comes to that prints what has been rendered. -/
def ofRender (source : Source) : Except RenderError String → Outcome
  | .ok text => .success text
  | .error error => .failure (error.format source.text source.filename)

theorem failure_code_ne (errors : String) : (failure errors).code ≠ 0 := by
  show (1 : UInt32) ≠ 0
  decide

theorem misuse_code_ne (error : UsageError) : (misuse error).code ≠ 0 := by
  show (2 : UInt32) ≠ 0
  decide

/-- **An outcome of a run that something has ended.** -/
inductive IsFailure : Outcome → Prop
  | failure (errors : String) : IsFailure (.failure errors)
  | misuse (error : UsageError) : IsFailure (.misuse error)

theorem IsFailure.code_eq {outcome : Outcome} (h : outcome.IsFailure) :
    outcome.code = 1 ∨ outcome.code = 2 := by
  cases h with
  | failure errors => exact .inl rfl
  | misuse error => exact .inr rfl

theorem IsFailure.output_eq {outcome : Outcome} (h : outcome.IsFailure) : outcome.output = "" := by
  cases h with
  | failure errors => rfl
  | misuse error => rfl

end CommandLine.Outcome

/-! ## What there is to read -/

/-- A text is read back from its bytes. -/
theorem FileError.decode_toUTF8 (text : String) : FileError.decode text.toUTF8 = .ok text := by
  have hvalid : text.toUTF8.IsValidUTF8 := text.isValidUTF8
  rw [FileError.decode, String.fromUTF8?, dif_pos hvalid]
  rfl

namespace Machine

/-- The text of the file that a path leads to. -/
def textOf (machine : Machine) (path : String) : Except FileError String :=
  machine.tree.read (Path.ofString path) >>= FileError.decode

/-- **What a machine has as settings**: those that the text of the file sets, and none without a
file. -/
inductive Loads (machine : Machine) : Option String → Settings → Prop
  | nothing : machine.Loads none .empty
  | file {path text : String} {settings : Settings} (htext : machine.textOf path = .ok text)
      (hsettings : Settings.ofToml text = .ok settings) : machine.Loads (some path) settings

/-- **What a machine has as a template**: the text of the file, or that of the standard input. -/
inductive Supplies (machine : Machine) : Option String → Source → Prop
  | file {path text : String} (htext : machine.textOf path = .ok text) :
      machine.Supplies (some path) ⟨text, path⟩
  | input {text : String} (htext : FileError.decode machine.input = .ok text) :
      machine.Supplies none ⟨text, "<stdin>"⟩

/-! ## Reading it -/

/-- What an action of the program comes to on a machine, and the machine after it. -/
def perform (machine : Machine) (action : StateM Machine α) : α × Machine :=
  action.run machine

/-- What the program answers to arguments on a machine, and the machine after it. -/
def respond (machine : Machine) (arguments : List String) : Outcome × Machine :=
  machine.perform (CommandLine.respond host arguments)

/-- The settings and the template of a run. -/
def prepare (machine : Machine) (options : Options) : Except Outcome (Settings × Source) := do
  let settings ← (machine.perform (readSettings host options)).1
  let source ← (machine.perform (readSource host options)).1
  pure (settings, source)

section Performing

variable (machine : Machine)

@[simp]
theorem perform_pure (value : α) : machine.perform (pure value) = (value, machine) :=
  rfl

@[simp]
theorem perform_bind (action : StateM Machine α) (next : α → StateM Machine β) :
    machine.perform (action >>= next) =
      (machine.perform action).2.perform (next (machine.perform action).1) :=
  rfl

@[simp]
theorem perform_readFile (path : String) :
    machine.perform (host.readFile path) = (machine.textOf path, machine) :=
  rfl

@[simp]
theorem perform_readInput :
    machine.perform host.readInput = (FileError.decode machine.input, machine) :=
  rfl

@[simp]
theorem perform_writeFile (path text : String) :
    machine.perform (host.writeFile path text) =
      (((FileTree.write (Path.ofString path) text.toUTF8).on machine.tree).1,
        { machine with
          tree := ((FileTree.write (Path.ofString path) text.toUTF8).on machine.tree).2 }) :=
  rfl

end Performing

section Reading

variable {machine : Machine} {options : Options} {settings : Settings} {source : Source}

theorem readSettings_of_loads (h : machine.Loads options.config settings) :
    machine.perform (readSettings host options) =
      (.ok (settings.merge options.overrides), machine) := by
  unfold readSettings Settings.ofFile
  generalize options.config = config at h ⊢
  cases h with
  | nothing => rfl
  | file htext hsettings =>
    simp only [perform_bind, perform_readFile, htext, perform_pure, hsettings]
    rfl

/-- There are settings to read, or the run ends. -/
theorem loads_or_failure (machine : Machine) (options : Options) :
    (∃ settings, machine.Loads options.config settings) ∨
      ∃ errors,
        machine.perform (readSettings host options) = (.error (.failure errors), machine) := by
  unfold readSettings Settings.ofFile
  cases options.config with
  | none => exact .inl ⟨_, .nothing⟩
  | some path =>
    simp only [perform_bind, perform_readFile]
    cases htext : machine.textOf path with
    | error error => exact .inr ⟨_, rfl⟩
    | ok text =>
      simp only [perform_pure]
      cases hsettings : Settings.ofToml text with
      | error error => exact .inr ⟨_, rfl⟩
      | ok settings => exact .inl ⟨settings, .file htext hsettings⟩

theorem readSource_of_supplies (h : machine.Supplies options.template source) :
    machine.perform (readSource host options) = (.ok source, machine) := by
  unfold readSource
  generalize options.template = template at h ⊢
  cases h with
  | file htext => simp only [perform_bind, perform_readFile, htext, perform_pure]
  | input htext => simp only [perform_bind, perform_readInput, htext, perform_pure]

/-- There is a template to read, or the run ends. -/
theorem supplies_or_failure (machine : Machine) (options : Options) :
    (∃ source, machine.Supplies options.template source) ∨
      ∃ errors,
        machine.perform (readSource host options) = (.error (.failure errors), machine) := by
  unfold readSource
  cases options.template with
  | none =>
    simp only [perform_bind, perform_readInput]
    cases htext : FileError.decode machine.input with
    | error error => exact .inr ⟨_, rfl⟩
    | ok text => exact .inl ⟨_, .input htext⟩
  | some path =>
    simp only [perform_bind, perform_readFile]
    cases htext : machine.textOf path with
    | error error => exact .inr ⟨_, rfl⟩
    | ok text => exact .inl ⟨_, .file htext⟩

/-- **What is read when there are settings and a template.** -/
theorem prepare_of_reads (hsettings : machine.Loads options.config settings)
    (hsource : machine.Supplies options.template source) :
    machine.prepare options = .ok (settings.merge options.overrides, source) := by
  rw [prepare, readSettings_of_loads hsettings, readSource_of_supplies hsource]
  rfl

/-- **There are settings and a template to read, or the run ends** with exit code 1 and nothing on
the standard output. -/
theorem reads_or_failure (machine : Machine) (options : Options) :
    (∃ settings source, machine.Loads options.config settings ∧
      machine.Supplies options.template source) ∨
      ∃ errors, machine.prepare options = .error (.failure errors) := by
  rcases loads_or_failure machine options with ⟨settings, hsettings⟩ | ⟨errors, hsettings⟩
  · rcases supplies_or_failure machine options with ⟨source, hsource⟩ | ⟨errors, hsource⟩
    · exact .inl ⟨settings, source, hsettings, hsource⟩
    · refine .inr ⟨errors, ?_⟩
      rw [prepare, readSettings_of_loads hsettings, hsource]
      rfl
  · refine .inr ⟨errors, ?_⟩
    rw [prepare, hsettings]
    rfl

/-- Reading succeeds, or the run ends. -/
theorem prepare_cases (machine : Machine) (options : Options) :
    (∃ errors, machine.prepare options = .error (.failure errors)) ∨
      ∃ read, machine.prepare options = .ok read := by
  rcases reads_or_failure machine options with ⟨settings, source, hsettings, hsource⟩ | herrors
  · exact .inr ⟨_, prepare_of_reads hsettings hsource⟩
  · exact .inl herrors

theorem perform_readSettings (machine : Machine) (options : Options) :
    (machine.perform (readSettings host options)).2 = machine := by
  rcases loads_or_failure machine options with ⟨settings, h⟩ | ⟨errors, h⟩
  · rw [readSettings_of_loads h]
  · rw [h]

theorem perform_readSource (machine : Machine) (options : Options) :
    (machine.perform (readSource host options)).2 = machine := by
  rcases supplies_or_failure machine options with ⟨source, h⟩ | ⟨errors, h⟩
  · rw [readSource_of_supplies h]
  · rw [h]

end Reading

/-! ## Runs -/

/-- **A run reads and then acts**, and reading changes nothing. -/
theorem perform_run (machine : Machine) (options : Options) :
    machine.perform (run host options) =
      if options.printTemplate then (.success Template.builtIn, machine)
      else if options.fields then (.success (lines Field.names), machine)
      else
        match machine.prepare options with
        | .error outcome => (outcome, machine)
        | .ok (settings, source) =>
          if options.check then (check source settings, machine)
          else machine.perform (CommandLine.render host options.output source settings) := by
  unfold run
  by_cases hprint : options.printTemplate
  · simp only [if_pos hprint, perform_pure]
  · by_cases hfields : options.fields
    · simp only [if_neg hprint, if_pos hfields, perform_pure]
    · simp only [if_neg hprint, if_neg hfields, perform_bind, perform_readSettings, prepare]
      cases (machine.perform (readSettings host options)).1 with
      | error outcome => rfl
      | ok settings =>
        simp only [perform_bind, perform_readSource]
        cases (machine.perform (readSource host options)).1 with
        | error outcome => rfl
        | ok source =>
          by_cases hcheck : options.check
          · simp only [if_pos hcheck, perform_pure]
            rfl
          · simp only [if_neg hcheck]
            rfl

/-- **A run that uses a template** reads, and then it checks or renders. -/
theorem perform_run_of_template (machine : Machine) (options : Options)
    (hprint : options.printTemplate = false) (hfields : options.fields = false) :
    machine.perform (run host options) =
      match machine.prepare options with
      | .error outcome => (outcome, machine)
      | .ok (settings, source) =>
        if options.check then (check source settings, machine)
        else machine.perform (CommandLine.render host options.output source settings) := by
  rw [perform_run, hprint, hfields, if_neg Bool.false_ne_true, if_neg Bool.false_ne_true]

/-- A run that renders a template for which there is all it needs. -/
theorem perform_run_of_reads {machine : Machine} {options : Options} {settings : Settings}
    {source : Source} (hprint : options.printTemplate = false) (hfields : options.fields = false)
    (hcheck : options.check = false) (hsettings : machine.Loads options.config settings)
    (hsource : machine.Supplies options.template source) :
    machine.perform (run host options) =
      machine.perform (CommandLine.render host options.output source
        (settings.merge options.overrides)) := by
  rw [machine.perform_run_of_template options hprint hfields, prepare_of_reads hsettings hsource]
  simp only [hcheck, Bool.false_eq_true, if_false]

section Rendering

variable (machine : Machine) {source : Source} {settings : Settings}

/-- Without a file to write, a run changes nothing. -/
theorem perform_render_none :
    machine.perform (CommandLine.render host none source settings) =
      (.ofRender source (Context.ofSettings source.text settings).render, machine) := by
  unfold CommandLine.render
  cases (Context.ofSettings source.text settings).render with
  | ok text => rfl
  | error error => rfl

theorem perform_render_of_error {error : RenderError} (output : Option String)
    (h : (Context.ofSettings source.text settings).render = .error error) :
    machine.perform (CommandLine.render host output source settings) =
      (.failure (error.format source.text source.filename), machine) := by
  simp only [CommandLine.render, h, perform_pure]

theorem perform_render_of_ok {text : String} (output : Option String)
    (h : (Context.ofSettings source.text settings).render = .ok text) :
    machine.perform (CommandLine.render host output source settings) =
      machine.perform (deliver host output text) := by
  simp only [CommandLine.render, h]

/-- A check ends well or fails. -/
theorem check_cases (source : Source) (settings : Settings) :
    (check source settings).code = 0 ∨ (check source settings).IsFailure := by
  unfold check
  cases (Context.ofSettings source.text settings).check with
  | ok names => exact .inl rfl
  | error error => exact .inr (.failure _)

/-- **What a run comes to that writes a file.** Directories may have been made before it fails or
succeeds, and when it succeeds the file is where the path leads. -/
theorem perform_deliver (path text : String) :
    ∃ grown, machine.tree.Grown grown ∧
      ((∃ errors, machine.perform (deliver host (some path) text) =
          (.failure errors, { machine with tree := grown })) ∨
        ∃ target, grown.Writable (Path.ofString path) target ∧
          machine.perform (deliver host (some path) text) =
            (.success "", { machine with tree := grown.put target (.file text.toUTF8) })) := by
  obtain ⟨grown, hgrown, ⟨error, hwrite⟩ | ⟨target, hwritable, hwrite⟩⟩ :=
    FileTree.write_on (Path.ofString path) text.toUTF8 machine.tree
  · refine ⟨grown, hgrown, .inl ?_⟩
    simp only [deliver, perform_bind, perform_writeFile, hwrite, perform_pure]
    exact ⟨_, rfl⟩
  · refine ⟨grown, hgrown, .inr ⟨target, hwritable, ?_⟩⟩
    simp only [deliver, perform_bind, perform_writeFile, hwrite, perform_pure]

/-- Writing a file ends well exactly when the file is written. -/
theorem perform_deliver_code_iff (path text : String) :
    (machine.perform (deliver host (some path) text)).1.code = 0 ↔
      ((FileTree.write (Path.ofString path) text.toUTF8).on machine.tree).1 = .ok () := by
  simp only [deliver, perform_bind, perform_writeFile]
  cases ((FileTree.write (Path.ofString path) text.toUTF8).on machine.tree).1 with
  | ok done => exact iff_of_true rfl rfl
  | error error => exact iff_of_false (Outcome.failure_code_ne _) nofun

end Rendering

/-- Without the check and the file, a run reads the same and prints what it renders. -/
theorem perform_run_bare (machine : Machine) {options : Options}
    (hprint : options.printTemplate = false) (hfields : options.fields = false) :
    machine.perform (run host { options with check := false, output := none }) =
      match machine.prepare options with
      | .error outcome => (outcome, machine)
      | .ok (settings, source) =>
        (.ofRender source (Context.ofSettings source.text settings).render, machine) := by
  have hprepare : machine.prepare { options with check := false, output := none } =
      machine.prepare options := rfl
  rw [machine.perform_run_of_template { options with check := false, output := none } hprint
    hfields, hprepare]
  cases machine.prepare options with
  | error outcome => rfl
  | ok read => exact machine.perform_render_none

/-! ## Answers to arguments -/

/-- **What a machine has for the items of a command line**: the settings and the template. -/
structure Provides (machine : Machine) (items : List Item) (settings : Settings)
    (source : Source) : Prop where
  loads : machine.Loads (Item.texts .config items).head? settings
  supplies : machine.Supplies (Item.templates items).head? source

section Answers

variable {machine : Machine} {arguments : List String} {items : List Item}

/-- Arguments that spell admissible items are answered by a run with the options of the items. -/
theorem respond_of_spells (hspells : Spells arguments items) (h : Admissible items) :
    machine.respond arguments = machine.perform (run host (Item.options items)) := by
  rw [respond, CommandLine.respond,
    Invocation.ofArguments_eq_run_iff.mpr ⟨items, hspells, h, rfl⟩]

/-- The template that comes with the program is printed whatever there is to read. -/
theorem respond_of_printTemplate (hspells : Spells arguments items) (hitems : Admissible items)
    (h : .flag .printTemplate ∈ items) :
    machine.respond arguments = (.success Template.builtIn, machine) := by
  have hprint : (Item.options items).printTemplate = true := decide_eq_true h
  rw [respond_of_spells hspells hitems, perform_run, if_pos hprint]

/-- The names of the fields are printed whatever there is to read. -/
theorem respond_of_fields (hspells : Spells arguments items) (hitems : Admissible items)
    (hprint : .flag .printTemplate ∉ items) (h : .flag .fields ∈ items) :
    machine.respond arguments = (.success (lines Field.names), machine) := by
  have hprint : ¬ (Item.options items).printTemplate = true := by
    rw [Item.options, decide_eq_true_eq]
    exact hprint
  have hfields : (Item.options items).fields = true := decide_eq_true h
  rw [respond_of_spells hspells hitems, perform_run, if_neg hprint, if_pos hfields]

/-- **Without a template to use**, the two flags alone tell what is printed. -/
theorem respond_of_not_usesTemplate (hspells : Spells arguments items) (hitems : Admissible items)
    (h : ¬ UsesTemplate items) :
    machine.respond arguments =
      (.success (if .flag .printTemplate ∈ items then Template.builtIn else lines Field.names),
        machine) := by
  by_cases hprint : .flag .printTemplate ∈ items
  · rw [if_pos hprint]
    exact respond_of_printTemplate hspells hitems hprint
  · rw [if_neg hprint]
    refine respond_of_fields hspells hitems hprint ?_
    by_contra hfields
    exact h ⟨hprint, hfields⟩

/-- **A check reads and changes nothing.** -/
theorem respond_of_check (hspells : Spells arguments items) (hitems : Admissible items)
    (h : UsesTemplate items) (hcheck : .flag .check ∈ items) :
    machine.respond arguments =
      match machine.prepare (Item.options items) with
      | .error outcome => (outcome, machine)
      | .ok (settings, source) => (check source settings, machine) := by
  have hcheck : (Item.options items).check = true := decide_eq_true hcheck
  rw [respond_of_spells hspells hitems,
    machine.perform_run_of_template _ h.printTemplate_eq h.fields_eq]
  cases machine.prepare (Item.options items) with
  | error outcome => rfl
  | ok read =>
    obtain ⟨settings, source⟩ := read
    exact if_pos hcheck

/-- **The run without the check and the file** reads what the run reads, and prints what it
renders. -/
theorem respond_bare {bare : List String} (hitems : Admissible items) (h : UsesTemplate items)
    (hbare : Spells bare ((items.filter (!·.isCheck)).filter (!·.isOutput))) :
    machine.respond bare =
      match machine.prepare (Item.options items) with
      | .error outcome => (outcome, machine)
      | .ok (settings, source) =>
        (.ofRender source (Context.ofSettings source.text settings).render, machine) := by
  rw [respond_of_spells hbare ((hitems.filter _).filter _), Item.options_without_output,
    Item.options_without_check]
  exact machine.perform_run_bare h.printTemplate_eq h.fields_eq

/-- Items that are not admissible are a mistake. -/
theorem admissible_or_misuse (hspells : Spells arguments items) (machine : Machine) :
    Admissible items ∨ ∃ error, machine.respond arguments = (.misuse error, machine) := by
  have hread := Invocation.read_of_spells hspells {}
  cases hitems : items.foldlM Item.addTo {} with
  | ok options => exact .inl (foldlM_addTo_iff.mp hitems).1
  | error error =>
    rw [hitems] at hread
    refine .inr ⟨error, ?_⟩
    rw [respond, CommandLine.respond, Invocation.ofArguments, hread]
    rfl

/-- **Arguments that are no mistake and no call for help spell admissible items.** -/
theorem respond_cases (machine : Machine) (arguments : List String) :
    (∃ error, machine.respond arguments = (.misuse error, machine)) ∨
      machine.respond arguments = (.success help, machine) ∨
        ∃ items, Spells arguments items ∧ Admissible items := by
  unfold respond CommandLine.respond
  cases harguments : Invocation.ofArguments arguments with
  | error error => exact .inl ⟨error, rfl⟩
  | ok invocation =>
    cases invocation with
    | help => exact .inr (.inl rfl)
    | run options =>
      obtain ⟨items, hspells, hitems, -⟩ := Invocation.ofArguments_eq_run_iff.mp harguments
      exact .inr (.inr ⟨items, hspells, hitems⟩)

end Answers

end Machine

/-- **What is rendered**: the template's text, and the values of items given over settings. -/
def CommandLine.Item.context (items : List Item) (settings : Settings) (source : Source) :
    Context :=
  ⟨source.text, Item.values items settings⟩

theorem CommandLine.Item.ofSettings_merge (items : List Item) (settings : Settings)
    (source : Source) :
    Context.ofSettings source.text (settings.merge (Item.settings items)) =
      Item.context items settings source := by
  rw [Item.context, Item.values_eq_apply]
  rfl

end Doxyfile
