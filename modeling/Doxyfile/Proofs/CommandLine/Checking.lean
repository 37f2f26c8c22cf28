import Doxyfile.Proofs.CommandLine.Reading
import Doxyfile.Proofs.Context.Outcome

/-!
# What a check tells of a run

A run that checks reads what the run reads that renders, and both go over the references of the
template in their own way. `Machine.respond_checked` puts the two together: with and without the
call for a check a command line comes to the same exit code, and to the same report if something
fails. A check prints the names that the template asks for, each with a line break behind it
(`CommandLine.lines_names`), and writes nothing.

Command lines that ask for a text that the program has by itself are told apart by two flags, and
by nothing else.
-/

namespace Doxyfile

open CommandLine

namespace CommandLine

/-- The names of references as they are printed: each with a line break behind it. -/
theorem lines_names (references : List Reference) :
    lines (references.map (·.name)) = String.join (references.map (·.name ++ "\n")) := by
  rw [lines, List.map_map]
  rfl

/-- **A template is refused by a check and by a rendering alike**, or by neither; a check lists the
names of its references then. -/
theorem check_cases_render (source : Source) (settings : Settings) :
    (∃ errors, check source settings = .failure errors ∧
      Outcome.ofRender source (Context.ofSettings source.text settings).render =
        .failure errors) ∨
      ∃ text template,
        Outcome.ofRender source (Context.ofSettings source.text settings).render = .success text ∧
        Template.parse source.text = .ok template ∧
        check source settings =
          ⟨0, String.join (template.references.map (·.name ++ "\n")), ""⟩ := by
  unfold check
  cases hcheck : (Context.ofSettings source.text settings).check with
  | error error =>
    have hrender := Context.render_error_iff.mpr (Context.check_error_iff.mp hcheck)
    rw [hrender]
    exact .inl ⟨_, rfl, rfl⟩
  | ok names =>
    obtain ⟨hrefusal, template, hparse, rfl⟩ := Context.check_ok_iff.mp hcheck
    obtain ⟨text, hrender⟩ := Context.exists_render_ok_iff.mpr hrefusal
    rw [hrender]
    refine .inr ⟨text, template, rfl, hparse, ?_⟩
    rw [← lines_names]
    rfl

end CommandLine

namespace Machine

section Checks

variable {machine : Machine} {arguments : List String} {items : List Item}

/-- **A check and the same run without it** fail with the same report, or the check lists the names
that the template asks for and the run renders it. -/
theorem respond_check_cases (hspells : Spells arguments items) (hitems : Admissible items)
    (h : UsesTemplate items) (hcheck : .flag .check ∈ items) :
    (∃ errors, machine.respond arguments = (.failure errors, machine) ∧
      ∀ bare, Spells bare ((items.filter (!·.isCheck)).filter (!·.isOutput)) →
        machine.respond bare = (.failure errors, machine)) ∨
      ∃ settings source template text, machine.Provides items settings source ∧
        Template.parse source.text = .ok template ∧
        machine.respond arguments =
          (⟨0, String.join (template.references.map (·.name ++ "\n")), ""⟩, machine) ∧
        ∀ bare, Spells bare ((items.filter (!·.isCheck)).filter (!·.isOutput)) →
          machine.respond bare = (.success text, machine) := by
  rw [respond_of_check hspells hitems h hcheck]
  rcases reads_or_failure machine (Item.options items) with
    ⟨settings, source, hsettings, hsource⟩ | ⟨errors, hread⟩
  · have hread := prepare_of_reads hsettings hsource
    rw [hread]
    rcases check_cases_render source (settings.merge (Item.options items).overrides) with
      ⟨errors, hcheck, hrender⟩ | ⟨text, template, hrender, hparse, hcheck⟩
    · refine .inl ⟨errors, congrArg (·, machine) hcheck, fun bare hbare => ?_⟩
      rw [respond_bare hitems h hbare, hread]
      exact congrArg (·, machine) hrender
    · refine .inr ⟨settings, source, template, text, ⟨hsettings, hsource⟩, hparse,
        congrArg (·, machine) hcheck, fun bare hbare => ?_⟩
      rw [respond_bare hitems h hbare, hread]
      exact congrArg (·, machine) hrender
  · rw [hread]
    refine .inl ⟨errors, rfl, fun bare hbare => ?_⟩
    rw [respond_bare hitems h hbare, hread]

/-- **What a check tells.** A check has the exit code of the same run without the check and without
a file to write. If that is not zero, nothing is printed and the report is the same. If it is, the
names of the template's references are printed in their order, each with a line break behind it, and
there is no report. A check changes nothing, also when there is a file to write.

When the command line asks for a text that the program has by itself, nothing counts but which one
it asks for. -/
theorem respond_checked (machine : Machine) {arguments : List String} {items : List Item}
    (hspells : Spells arguments items) (hitems : Admissible items) :
    let outcome := (machine.respond arguments).1
    (.flag .check ∈ items → (machine.respond arguments).2 = machine) ∧
      (UsesTemplate items → .flag .check ∈ items →
        (∃ bare, Spells bare ((items.filter (!·.isCheck)).filter (!·.isOutput))) ∧
        (∀ bare, Spells bare ((items.filter (!·.isCheck)).filter (!·.isOutput)) →
          outcome.code = (machine.respond bare).1.code ∧
          (outcome.code ≠ 0 → outcome = (machine.respond bare).1)) ∧
        (outcome.code ≠ 0 → outcome.output = "") ∧
        (outcome.code = 0 →
          ∃ settings source template, machine.Provides items settings source ∧
            Template.parse source.text = .ok template ∧
            outcome.output = String.join (template.references.map (·.name ++ "\n")) ∧
            outcome.errors = "")) ∧
      (¬ UsesTemplate items →
        (machine.respond arguments).2 = machine ∧
        ∀ (other : Machine) (arguments' : List String) (items' : List Item),
          Spells arguments' items' → Admissible items' →
          (.flag .printTemplate ∈ items' ↔ .flag .printTemplate ∈ items) →
          (.flag .fields ∈ items' ↔ .flag .fields ∈ items) →
          (other.respond arguments').1 = outcome) := by
  intro outcome
  refine ⟨fun hcheck => ?_, fun h hcheck => ⟨?_, ?_⟩, fun h => ?_⟩
  · by_cases h : UsesTemplate items
    · rcases respond_check_cases hspells hitems h hcheck with
        ⟨errors, hrun, -⟩ | ⟨settings, source, template, text, -, -, hrun, -⟩
      · rw [hrun]
      · rw [hrun]
    · rw [respond_of_not_usesTemplate hspells hitems h]
  · obtain ⟨fewer, hfewer⟩ := hspells.exists_filter (!·.isCheck)
    exact hfewer.exists_filter (!·.isOutput)
  · rcases respond_check_cases hspells hitems h hcheck with
      ⟨errors, hrun, hbare⟩ | ⟨settings, source, template, text, hprovides, hparse, hrun, hbare⟩
    · have houtcome : outcome = .failure errors := congrArg Prod.fst hrun
      rw [houtcome]
      refine ⟨fun bare hspelled => ?_, fun _ => rfl,
        fun hzero => absurd hzero (Outcome.failure_code_ne errors)⟩
      rw [hbare bare hspelled]
      exact ⟨rfl, fun _ => rfl⟩
    · have houtcome := congrArg Prod.fst hrun
      rw [show outcome = _ from houtcome]
      refine ⟨fun bare hspelled => ?_, fun hcode => absurd rfl hcode,
        fun _ => ⟨settings, source, template, hprovides, hparse, rfl, rfl⟩⟩
      rw [hbare bare hspelled]
      exact ⟨rfl, fun hcode => absurd rfl hcode⟩
  · have hrun : machine.respond arguments = _ := respond_of_not_usesTemplate hspells hitems h
    refine ⟨by rw [hrun], fun other arguments' items' hspells' hitems' hprint hfields => ?_⟩
    have h' : ¬ UsesTemplate items' := fun h' =>
      h ⟨fun hmem => h'.noTemplate (hprint.mpr hmem), fun hmem => h'.noFields (hfields.mpr hmem)⟩
    show _ = (machine.respond arguments).1
    rw [hrun, respond_of_not_usesTemplate hspells' hitems' h']
    simp only [hprint]

/-- A check finds the unknown name that the run stops at, and prints the names, one of them twice,
of a template that the run renders. Either has no file written. -/
theorem respond_checked_twice :
    let refused : Machine := ⟨.empty, "<%= version %> <%= nothing %>".toUTF8⟩
    let accepted : Machine := ⟨.empty, "<%= version %> <%= input %><%= version %>".toUTF8⟩
    let arguments := ["--check", "--output", "o"]
    (refused.respond arguments).1 = (refused.respond []).1 ∧
      (refused.respond arguments).1.code = 1 ∧ (refused.respond arguments).2 = refused ∧
      (accepted.respond arguments).1.output = "version\ninput\nversion\n" ∧
      (accepted.respond arguments).1.errors = "" ∧
      (accepted.respond []).1.code = 0 ∧ (accepted.respond arguments).2 = accepted := by
  intro refused accepted arguments
  have hspells : Spells arguments [.flag .check, .value .output "o"] :=
    .complete (.flag .check) (.separate (.named .output) rfl .nil)
  have hitems := (foldlM_addTo_iff.mp rfl : Admissible [.flag .check, .value .output "o"] ∧ _).1
  have huses : UsesTemplate [.flag .check, .value .output "o"] := ⟨by decide, by decide⟩
  have hrefused : (refused.respond arguments).1.code = 1 := by decide +kernel
  have haccepted : (accepted.respond arguments).1.code = 0 := by decide +kernel
  obtain ⟨hafter, hchecked, -⟩ := refused.respond_checked hspells hitems
  obtain ⟨-, hbare, -⟩ := hchecked huses (by decide)
  obtain ⟨hkept, hlisted, -⟩ := accepted.respond_checked hspells hitems
  obtain ⟨-, hrun, -, hnames⟩ := hlisted huses (by decide)
  obtain ⟨settings, source, template, hprovides, hparse, houtput, herrors⟩ := hnames haccepted
  have hsupplies : accepted.Supplies none source := hprovides.supplies
  cases hsupplies with
  | input htext =>
    rw [show accepted.input = _ from rfl, FileError.decode_toUTF8] at htext
    cases htext
    have hread : Template.parse "<%= version %> <%= input %><%= version %>" = .ok
        ⟨[.field ⟨"version", ⟨4, 11⟩⟩, .text " ", .field ⟨"input", ⟨19, 24⟩⟩,
          .field ⟨"version", ⟨31, 38⟩⟩]⟩ := by decide +kernel
    cases hparse.symm.trans hread
    refine ⟨(hbare [] .nil).2 ?_, hrefused, hafter (by decide), houtput, herrors, ?_,
      hkept (by decide)⟩
    · rw [hrefused]
      decide
    · rw [← (hrun [] .nil).1, haccepted]

end Checks

end Machine

end Doxyfile
