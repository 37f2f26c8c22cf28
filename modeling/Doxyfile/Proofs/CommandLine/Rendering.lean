import Mathlib
import Doxyfile.Proofs.CommandLine.Reading
import Doxyfile.Proofs.Settings.Entries

/-!
# What a run renders

A run that only renders, and prints what it has rendered, is told by what it reads: the text of the
template and the values that the command line and the file of settings make together
(`Item.values`). `Machine.respond_rendered` says what such a run comes to and that nothing else
counts, where a value comes from included: an option can be left out for an entry in the file of
settings (`Item.Moved`), and the values stay what they were.
-/

namespace Doxyfile

open CommandLine

/-! ## Values that move from the command line into the file -/

/-- **What stands in the file of settings**, entry by entry, and nothing without a file. -/
inductive Machine.Documents (machine : Machine) : Option String → Toml.Table → Prop
  | nothing : machine.Documents none []
  | file {path text : String} {document : Toml.Table} (htext : machine.textOf path = .ok text)
      (hdocument : Toml.parse text = some document) : machine.Documents (some path) document

/-- What a machine has as settings are those of the document. -/
theorem Machine.Loads.ofEntries {machine : Machine} {config : Option String} {settings : Settings}
    {document : Toml.Table} (h : machine.Loads config settings)
    (hdocument : machine.Documents config document) :
    Settings.ofEntries document = .ok settings := by
  cases hdocument with
  | nothing =>
    cases h
    rfl
  | file htext hparse =>
    cases h with
    | file htext' hsettings =>
      obtain rfl := Except.ok.inj (htext'.symm.trans htext)
      simp only [Settings.ofToml, hparse] at hsettings
      cases hentries : Settings.ofEntries document with
      | error error =>
        rw [hentries] at hsettings
        cases hsettings
      | ok found =>
        rw [hentries] at hsettings
        cases hsettings
        rfl

namespace Machine

/-! ## Runs that render and print -/

/-- **A run that renders a template and prints the result**: the items of the command line, which
any command line that asks for a run has (`Invocation.ofArguments_eq_run_iff`), ask for no more,
there are settings to load, and there is a template. -/
structure Renders (machine : Machine) (arguments : List String) (items : List Item)
    (settings : Settings) (source : Source) : Prop where
  spells : Spells arguments items
  admissible : Admissible items
  usesTemplate : UsesTemplate items
  noCheck : .flag .check ∉ items
  noOutput : Item.texts .output items = []
  provides : machine.Provides items settings source

section Renders

variable {machine : Machine} {arguments : List String} {items : List Item} {settings : Settings}
  {source : Source}

/-- **A run is the rendering of its context.** -/
theorem Renders.respond_eq (h : machine.Renders arguments items settings source) :
    machine.respond arguments =
      (.ofRender source (Item.context items settings source).render, machine) := by
  rw [respond_of_spells h.spells h.admissible,
    perform_run_of_reads h.usesTemplate.printTemplate_eq h.usesTemplate.fields_eq
      (decide_eq_false h.noCheck) h.provides.loads h.provides.supplies, ← Item.ofSettings_merge]
  show machine.perform (CommandLine.render host (Item.texts .output items).head? _ _) = _
  rw [h.noOutput]
  exact machine.perform_render_none

end Renders

end Machine

end Doxyfile
