import Doxyfile.Proofs.CommandLine.Reading

/-!
# What a run leaves behind

Only one kind of run changes anything: one that has rendered a template and has a file to write
(`Machine.Delivers`). Every other run leaves the machine as it is, whether it ends well or not
(`Machine.delivers_or_unchanged`). So what a run does to the files is what writing does to them: the
file holds what the same run without it would have printed, no other file changes, and if writing
fails no file changes at all. Directories made on the way stay.
-/

namespace Doxyfile

open CommandLine

namespace Machine

/-- **A run that has something to write**: a template that it has rendered, and the path of a
file. -/
structure Delivers (machine : Machine) (arguments : List String) (items : List Item)
    (path text : String) : Prop where
  spells : Spells arguments items
  admissible : Admissible items
  usesTemplate : UsesTemplate items
  noCheck : .flag .check ∉ items
  output : (Item.texts .output items).head? = some path
  rendered : ∃ settings source, machine.Provides items settings source ∧
    (Item.context items settings source).render = .ok text

section Runs

variable {machine : Machine} {arguments : List String} {items : List Item}

/-- **A run that renders** fails as it would without a file to write, and changes nothing, or it
delivers what it has rendered. -/
theorem failure_or_rendered (machine : Machine) (hspells : Spells arguments items)
    (hitems : Admissible items) (h : UsesTemplate items) (hcheck : .flag .check ∉ items) :
    (∃ errors, machine.respond arguments = (.failure errors, machine) ∧
      ∀ bare, Spells bare (items.filter (!·.isOutput)) →
        machine.respond bare = (.failure errors, machine)) ∨
      ∃ settings source text, machine.Provides items settings source ∧
        (Item.context items settings source).render = .ok text ∧
        machine.respond arguments =
          machine.perform (deliver host (Item.texts .output items).head? text) := by
  have hrun : machine.respond arguments = _ := respond_of_spells hspells hitems
  have hbare : ∀ bare, Spells bare (items.filter (!·.isOutput)) →
      Spells bare ((items.filter (!·.isCheck)).filter (!·.isOutput)) := by
    intro bare hspelled
    rwa [Item.filter_isCheck_of_not_mem hcheck]
  rcases reads_or_failure machine (Item.options items) with
    ⟨settings, source, hsettings, hsource⟩ | ⟨errors, herrors⟩
  · rw [perform_run_of_reads h.printTemplate_eq h.fields_eq (decide_eq_false hcheck) hsettings
      hsource] at hrun
    cases hrender : (Item.context items settings source).render with
    | error error =>
      rw [← Item.ofSettings_merge] at hrender
      refine .inl ⟨_, hrun.trans (machine.perform_render_of_error _ hrender), ?_⟩
      intro bare hspelled
      rw [respond_bare hitems h (hbare bare hspelled), prepare_of_reads hsettings hsource]
      exact congrArg (Outcome.ofRender source ·, machine) hrender
    | ok text =>
      refine .inr ⟨settings, source, text, ⟨hsettings, hsource⟩, hrender, ?_⟩
      rw [← Item.ofSettings_merge] at hrender
      exact hrun.trans (machine.perform_render_of_ok _ hrender)
  · refine .inl ⟨errors, ?_, fun bare hspelled => ?_⟩
    · rw [hrun, machine.perform_run_of_template _ h.printTemplate_eq h.fields_eq, herrors]
    · rw [respond_bare hitems h (hbare bare hspelled), herrors]

/-- **A run that ends well with a file to write has delivered.** -/
theorem delivers_of_code_eq_zero {path : String} (hspells : Spells arguments items)
    (h : UsesTemplate items) (hcheck : .flag .check ∉ items) (houtput : .value .output path ∈ items)
    (hcode : (machine.respond arguments).1.code = 0) :
    ∃ text, machine.Delivers arguments items path text := by
  rcases admissible_or_misuse hspells machine with hitems | ⟨error, hrun⟩
  · rcases failure_or_rendered machine hspells hitems h hcheck with
      ⟨errors, hrun, -⟩ | ⟨settings, source, text, hprovides, hrender, -⟩
    · rw [hrun] at hcode
      exact absurd hcode (Outcome.failure_code_ne errors)
    · have hpath : (Item.texts .output items).head? = some path := by
        rw [hitems.texts_eq rfl houtput]
        rfl
      exact ⟨text, hspells, hitems, h, hcheck, hpath, settings, source, hprovides, hrender⟩
  · rw [hrun] at hcode
    exact absurd hcode (Outcome.misuse_code_ne error)

/-- **A run that does not deliver changes nothing**, whether it ends well or not. -/
theorem delivers_or_unchanged (machine : Machine) (arguments : List String) :
    (∃ items path text, machine.Delivers arguments items path text) ∨
      (machine.respond arguments).2 = machine ∧
        ((machine.respond arguments).1.code = 0 ∨ (machine.respond arguments).1.IsFailure) := by
  rcases respond_cases machine arguments with ⟨error, hrun⟩ | hrun | ⟨items, hspells, hitems⟩
  · rw [hrun]
    exact .inr ⟨rfl, .inr (.misuse error)⟩
  · rw [hrun]
    exact .inr ⟨rfl, .inl rfl⟩
  · by_cases h : UsesTemplate items
    · by_cases hcheck : .flag .check ∈ items
      · rw [respond_of_check hspells hitems h hcheck]
        rcases prepare_cases machine (Item.options items) with ⟨errors, hread⟩ | ⟨read, hread⟩
        · rw [hread]
          exact .inr ⟨rfl, .inr (.failure errors)⟩
        · rw [hread]
          exact .inr ⟨rfl, check_cases _ _⟩
      · rcases failure_or_rendered machine hspells hitems h hcheck with
          ⟨errors, hrun, -⟩ | ⟨settings, source, text, hprovides, hrender, hrun⟩
        · rw [hrun]
          exact .inr ⟨rfl, .inr (.failure errors)⟩
        · cases hpath : (Item.texts .output items).head? with
          | none =>
            rw [hrun, hpath]
            exact .inr ⟨rfl, .inl rfl⟩
          | some path =>
            exact .inl ⟨items, path, text, hspells, hitems, h, hcheck, hpath, settings, source,
              hprovides, hrender⟩
    · rw [respond_of_not_usesTemplate hspells hitems h]
      exact .inr ⟨rfl, .inl rfl⟩

end Runs

section Delivers

variable {machine : Machine} {arguments : List String} {items : List Item} {path text : String}

theorem Delivers.respond_eq (h : machine.Delivers arguments items path text) :
    machine.respond arguments = machine.perform (deliver host (some path) text) := by
  obtain ⟨settings, source, hprovides, hrender⟩ := h.rendered
  rw [← Item.ofSettings_merge] at hrender
  rw [respond_of_spells h.spells h.admissible,
    perform_run_of_reads h.usesTemplate.printTemplate_eq h.usesTemplate.fields_eq
      (decide_eq_false h.noCheck) hprovides.loads hprovides.supplies, ← h.output]
  exact machine.perform_render_of_ok _ hrender

/-- **A run that delivers.** Directories may have been made; then writing fails and no file has
changed, or the file has been written. -/
theorem Delivers.respond_cases (h : machine.Delivers arguments items path text) :
    ∃ grown, machine.tree.Grown grown ∧
      ((∃ errors, machine.respond arguments = (.failure errors, { machine with tree := grown })) ∨
        ∃ target, grown.Writable (Path.ofString path) target ∧
          machine.respond arguments =
            (.success "", { machine with tree := grown.put target (.file text.toUTF8) })) := by
  rw [h.respond_eq]
  exact machine.perform_deliver path text

/-- **The same run without the file** prints what has been delivered, and changes nothing. -/
theorem Delivers.respond_bare (h : machine.Delivers arguments items path text)
    {bare : List String} (hbare : Spells bare (items.filter (!·.isOutput))) :
    machine.respond bare = (.success text, machine) := by
  obtain ⟨settings, source, hprovides, hrender⟩ := h.rendered
  rw [← Item.ofSettings_merge] at hrender
  rw [← Item.filter_isCheck_of_not_mem h.noCheck] at hbare
  rw [Machine.respond_bare h.admissible h.usesTemplate hbare,
    prepare_of_reads hprovides.loads hprovides.supplies]
  exact congrArg (Outcome.ofRender source ·, machine) hrender

end Delivers

/-- **A run with a file to write ends well** when the same run without it does and the file can be
written. -/
theorem code_eq_zero_iff {machine : Machine} {arguments : List String} {items : List Item}
    {path : String} (hspells : Spells arguments items) (h : UsesTemplate items)
    (hcheck : .flag .check ∉ items) (houtput : .value .output path ∈ items) :
    (machine.respond arguments).1.code = 0 ↔
      Admissible items ∧ ∃ text,
        (∀ bare, Spells bare (items.filter (!·.isOutput)) →
          machine.respond bare = (.success text, machine)) ∧
        ((FileTree.write (Path.ofString path) text.toUTF8).on machine.tree).1 = .ok () := by
  constructor
  · intro hcode
    obtain ⟨text, hdelivers⟩ := delivers_of_code_eq_zero hspells h hcheck houtput hcode
    refine ⟨hdelivers.admissible, text, fun bare => hdelivers.respond_bare, ?_⟩
    rw [hdelivers.respond_eq] at hcode
    exact (machine.perform_deliver_code_iff path text).mp hcode
  · rintro ⟨hitems, text, hbare, hwrite⟩
    obtain ⟨bare, hspelled⟩ := hspells.exists_filter (!·.isOutput)
    have hprinted := hbare bare hspelled
    rcases failure_or_rendered machine hspells hitems h hcheck with
      ⟨errors, -, hfails⟩ | ⟨settings, source, found, hprovides, hrender, hrun⟩
    · rw [hfails bare hspelled] at hprinted
      exact absurd (congrArg (·.1.code) hprinted) (Outcome.failure_code_ne errors)
    · have hpath : (Item.texts .output items).head? = some path := by
        rw [hitems.texts_eq rfl houtput]
        rfl
      have hdelivers : machine.Delivers arguments items path found :=
        ⟨hspells, hitems, h, hcheck, hpath, settings, source, hprovides, hrender⟩
      rw [hdelivers.respond_bare hspelled] at hprinted
      obtain rfl : found = text := congrArg (·.1.output) hprinted
      rw [hdelivers.respond_eq]
      exact (machine.perform_deliver_code_iff path found).mpr hwrite

/-- **What a run leaves behind.** A run with a file to write ends well exactly when the same run
without it does and the file can be written. Then it prints nothing, and the file has what the same
run without it prints; no other file is new or changed. That holds whatever was at the place before,
the template and the settings not excepted.

A run that fails prints nothing, and no file is new or changed. A directory may be new, if the
template had been rendered. -/
theorem respond_delivered (machine : Machine) (arguments : List String) :
    let outcome := (machine.respond arguments).1
    let after := (machine.respond arguments).2
    (∀ items path, Spells arguments items → UsesTemplate items → .flag .check ∉ items →
      .value .output path ∈ items →
      (∃ bare, Spells bare (items.filter (!·.isOutput))) ∧
        (outcome.code = 0 ↔ Admissible items ∧ ∃ text,
          (∀ bare, Spells bare (items.filter (!·.isOutput)) →
            machine.respond bare = (.success text, machine)) ∧
          ((FileTree.write (Path.ofString path) text.toUTF8).on machine.tree).1 = .ok ()) ∧
        (outcome.code = 0 → ∃ text target,
          (∀ bare, Spells bare (items.filter (!·.isOutput)) →
            machine.respond bare = (.success text, machine)) ∧
          outcome = .success "" ∧ after.input = machine.input ∧
          after.tree.walk (Path.ofString path) = .ok target ∧
          after.tree.read (Path.ofString path) = .ok text.toUTF8 ∧
          ∀ place, place ≠ target → after.tree.file? place = machine.tree.file? place)) ∧
      (outcome.code ≠ 0 →
        (outcome.code = 1 ∨ outcome.code = 2) ∧ outcome.output = "" ∧
          after.input = machine.input ∧
          (∀ place, after.tree.file? place = machine.tree.file? place) ∧
          ∀ place, FileTree.entry? after.tree place ≠ FileTree.entry? machine.tree place →
            FileTree.entry? machine.tree place = none ∧
              FileTree.entry? after.tree place = some .directory ∧
              ∃ items path text, machine.Delivers arguments items path text) := by
  refine ⟨fun items path hspells h hcheck houtput => ⟨hspells.exists_filter _,
    code_eq_zero_iff hspells h hcheck houtput, fun hcode => ?_⟩, fun hcode => ?_⟩
  · obtain ⟨text, hdelivers⟩ := delivers_of_code_eq_zero hspells h hcheck houtput hcode
    obtain ⟨grown, hgrown, ⟨errors, hrun⟩ | ⟨target, hwritable, hrun⟩⟩ := hdelivers.respond_cases
    · rw [hrun] at hcode
      exact absurd hcode (Outcome.failure_code_ne errors)
    · obtain ⟨hwalk, hread⟩ := hwritable.read_put text.toUTF8
      refine ⟨text, target, fun bare => hdelivers.respond_bare, ?_⟩
      rw [hrun]
      refine ⟨rfl, rfl, hwalk, hread, fun place hplace => ?_⟩
      show (grown.put target (.file text.toUTF8)).file? place = _
      rw [FileTree.file?_put hwritable.entry, if_neg hplace, hgrown.file?_eq]
  · rcases delivers_or_unchanged machine arguments with
      ⟨items, path, text, hdelivers⟩ | ⟨hafter, hzero | hfailure⟩
    · obtain ⟨grown, hgrown, ⟨errors, hrun⟩ | ⟨target, hwritable, hrun⟩⟩ := hdelivers.respond_cases
      · rw [hrun]
        refine ⟨.inl rfl, rfl, rfl, hgrown.file?_eq, fun place hplace => ?_⟩
        rcases hgrown place with hsame | ⟨hnone, hmade⟩
        · exact absurd hsame hplace
        · exact ⟨hnone, hmade, items, path, text, hdelivers⟩
      · rw [hrun] at hcode
        exact absurd rfl hcode
    · exact absurd hzero hcode
    · refine ⟨hfailure.code_eq, hfailure.output_eq, ?_⟩
      rw [hafter]
      exact ⟨rfl, fun _ => rfl, fun place hplace => absurd rfl hplace⟩

/-- A template is written over with what it renders to. -/
theorem respond_delivered_over :
    let machine : Machine :=
      ⟨⟨[(⟨.working, ["t"]⟩, .file "<%# longer than what it comes to %>v<%= version %>".toUTF8)]⟩,
        .empty⟩
    machine.respond ["t", "--project-version", "2"] = (.success "v2", machine) ∧
      (machine.respond ["t", "--project-version", "2", "--output", "t"]).1 = .success "" ∧
      (machine.respond ["t", "--project-version", "2", "--output", "t"]).2.tree.read
        (Path.ofString "t") = .ok "v2".toUTF8 := by
  intro machine
  have hspells : Spells ["t", "--project-version", "2", "--output", "t"]
      [.template "t", .value .projectVersion "2", .value .output "t"] :=
    .complete (.template rfl) (.separate (.named .projectVersion) rfl
      (.separate (.named .output) rfl .nil))
  have hbare : Spells ["t", "--project-version", "2"] [.template "t", .value .projectVersion "2"] :=
    .complete (.template rfl) (.separate (.named .projectVersion) rfl .nil)
  have hcode : (machine.respond ["t", "--project-version", "2", "--output", "t"]).1.code = 0 := by
    decide +kernel
  have hprinted : (machine.respond ["t", "--project-version", "2"]).1 = .success "v2" := by
    decide +kernel
  obtain ⟨-, -, hdelivered⟩ :=
    (machine.respond_delivered _).1 _ "t" hspells ⟨by decide, by decide⟩ (by decide) (by decide)
  obtain ⟨text, target, hsame, houtcome, -, -, hread, -⟩ := hdelivered hcode
  have hrun := hsame _ hbare
  rw [hrun] at hprinted
  obtain rfl : text = "v2" := congrArg Outcome.output hprinted
  exact ⟨hrun, houtcome, hread⟩

end Machine

end Doxyfile
