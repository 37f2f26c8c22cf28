import Doxyfile.Context.Values
import Doxyfile.Proofs.CommandLine.Spelling
import Mathlib.Data.List.Induction

/-!
# What items come to

Items are taken in one after the other, and the one that is repeated or has no good value ends the
reading. Which one that is depends on those before it; whether there is one does not, and neither
does what the items come to when there is none. `Admissible` says of a list of items that nothing is
wrong with it, and `Item.options` reads off the list what each option has got. The two are what
taking in comes to (`foldlM_addTo_iff`), so `Invocation.ofArguments_eq_run_iff` tells a command line
that asks for a run by its items alone.

`Item.values` goes one step further, to what the fields hold when settings lie below the items.
-/

namespace Doxyfile

/-- Whether an option can be given again and again, each value being one entry of a list. -/
def ValueOption.isList : ValueOption → Bool
  | .input | .examplePath | .stripFromPath => true
  | .config | .output | .commitNumber | .projectVersion | .mainpage => false

namespace CommandLine

/-! ## Command lines without a mistake -/

/-- Two items of which only one can be given. -/
def Item.Clash : Item → Item → Prop
  | .value option _, .value other _ => option = other ∧ option.isList = false
  | .flag raised, .flag other => raised = other
  | .template _, .template _ => True
  | _, _ => False

/-- A path is not empty, and what is given for the flag field is one of two words. -/
def Item.IsValid : Item → Prop
  | .value .config text | .value .output text | .template text => text ≠ ""
  | .value .mainpage text => text = "true" ∨ text = "false"
  | .value _ _ | .flag _ => True

/-- **Items that a run can be asked with.** -/
structure Admissible (items : List Item) : Prop where
  valid : ∀ item ∈ items, item.IsValid
  once : items.Pairwise fun first second => ¬ first.Clash second

/-! ## What is given -/

/-- The values of an option, in the order in which they are given. -/
def Item.texts (option : ValueOption) (items : List Item) : List String :=
  items.filterMap fun
    | .value other text => if other = option then some text else none
    | _ => none

/-- The arguments that are no options, in their order. -/
def Item.templates (items : List Item) : List String :=
  items.filterMap fun
    | .template text => some text
    | _ => none

/-- The entries of a list, nothing when it is not given. -/
def Item.entries (option : ValueOption) (items : List Item) : Option (List String) :=
  match Item.texts option items with
  | [] => none
  | texts => some texts

/-- **The fields that items set**: a list is all the values of its option, in order. -/
def Item.settings (items : List Item) : Settings where
  commitNumber := (Item.texts .commitNumber items).head?
  version := (Item.texts .projectVersion items).head?
  useMdfileAsMainpage := (Item.texts .mainpage items).head?.map (· == "true")
  input := Item.entries .input items
  examplePath := Item.entries .examplePath items
  stripFromPath := Item.entries .stripFromPath items

/-- **The options that items come to.** -/
def Item.options (items : List Item) : Options where
  template := (Item.templates items).head?
  config := (Item.texts .config items).head?
  output := (Item.texts .output items).head?
  overrides := Item.settings items
  check := .flag .check ∈ items
  printTemplate := .flag .printTemplate ∈ items
  fields := .flag .fields ∈ items
  verbose := .flag .verbose ∈ items

/-- **What the fields hold** when items are given over settings: the value of the item if there is
one, that of the settings if there is one, and nothing otherwise. -/
def Item.values (items : List Item) (settings : Settings) : Values where
  commitNumber := ((Item.texts .commitNumber items).head?.or settings.commitNumber).getD ""
  version := ((Item.texts .projectVersion items).head?.or settings.version).getD ""
  useMdfileAsMainpage :=
    ((Item.texts .mainpage items).head?.map (· == "true")).or settings.useMdfileAsMainpage
  input := ((Item.entries .input items).or settings.input).getD []
  examplePath := ((Item.entries .examplePath items).or settings.examplePath).getD []
  stripFromPath := ((Item.entries .stripFromPath items).or settings.stripFromPath).getD []

/-- **Items that ask for something to be done with a template**, not for a text that the program
has by itself. -/
structure UsesTemplate (items : List Item) : Prop where
  noTemplate : .flag .printTemplate ∉ items
  noFields : .flag .fields ∉ items

theorem UsesTemplate.printTemplate_eq {items : List Item} (h : UsesTemplate items) :
    (Item.options items).printTemplate = false :=
  decide_eq_false h.noTemplate

theorem UsesTemplate.fields_eq {items : List Item} (h : UsesTemplate items) :
    (Item.options items).fields = false :=
  decide_eq_false h.noFields

/-- Whether an item says where the rendered template goes. -/
def Item.isOutput : Item → Bool
  | .value .output _ => true
  | _ => false

/-- Whether an item asks for a check. -/
def Item.isCheck : Item → Bool
  | .flag .check => true
  | _ => false

namespace Item

section Texts

variable (option : ValueOption) (items others : List Item)

@[simp]
theorem texts_append : texts option (items ++ others) = texts option items ++ texts option others :=
  List.filterMap_append

@[simp]
theorem texts_value (other : ValueOption) (text : String) :
    texts option [.value other text] = if other = option then [text] else [] := by
  by_cases h : other = option
  · simp [texts, h]
  · simp [texts, h]

@[simp]
theorem texts_flag (flag : Flag) : texts option [.flag flag] = [] :=
  rfl

@[simp]
theorem texts_template (text : String) : texts option [.template text] = [] :=
  rfl

theorem templates_append : templates (items ++ others) = templates items ++ templates others :=
  List.filterMap_append

@[simp]
theorem templates_concat_value (text : String) :
    templates (items ++ [.value option text]) = templates items := by
  rw [templates_append]
  exact List.append_nil _

@[simp]
theorem templates_concat_flag (flag : Flag) :
    templates (items ++ [.flag flag]) = templates items := by
  rw [templates_append]
  exact List.append_nil _

@[simp]
theorem templates_concat_template (text : String) :
    templates (items ++ [.template text]) = templates items ++ [text] := by
  rw [templates_append]
  rfl

end Texts

/-- **The values are those of two layers**: the settings, and what the items set over them. -/
theorem values_eq_apply (items : List Item) (below : Settings) :
    values items below = ({} : Values).apply (below.merge (settings items)) := by
  simp only [values, Values.apply, Settings.merge, settings, Option.or_none]

/-- One more value makes one more entry. -/
theorem entries_concat (option : ValueOption) (text : String) (items : List Item) :
    entries option (items ++ [.value option text]) =
      Options.more (entries option items) text := by
  rw [entries, entries, texts_append, texts_value, if_pos rfl]
  cases texts option items with
  | nil => rfl
  | cons first others => rfl

theorem entries_concat_of_texts {option : ValueOption} {item : Item}
    (h : texts option [item] = []) (items : List Item) :
    entries option (items ++ [item]) = entries option items := by
  rw [entries, entries, texts_append, h, List.append_nil]

theorem mem_texts_iff {option : ValueOption} {text : String} {items : List Item} :
    text ∈ texts option items ↔ .value option text ∈ items := by
  rw [texts, List.mem_filterMap]
  constructor
  · rintro ⟨item, hitem, htext⟩
    cases item with
    | value other found =>
      obtain ⟨rfl, rfl⟩ : other = option ∧ found = text := by simpa using htext
      exact hitem
    | flag flag => cases htext
    | template found => cases htext
  · intro h
    exact ⟨_, h, by simp⟩

theorem mem_templates_iff {text : String} {items : List Item} :
    text ∈ templates items ↔ .template text ∈ items := by
  rw [templates, List.mem_filterMap]
  constructor
  · rintro ⟨item, hitem, htext⟩
    cases item with
    | template found =>
      cases htext
      exact hitem
    | value option found => cases htext
    | flag flag => cases htext
  · intro h
    exact ⟨_, h, rfl⟩

/-! ### Items that clash with none -/

theorem unclashing_value_iff {option : ValueOption} {text : String} {items : List Item} :
    (∀ earlier ∈ items, ¬ earlier.Clash (.value option text)) ↔
      (option.isList = false → texts option items = []) := by
  constructor
  · intro h hlist
    rw [List.eq_nil_iff_forall_not_mem]
    intro found hfound
    exact h _ (mem_texts_iff.mp hfound) ⟨rfl, hlist⟩
  · intro h earlier hearlier hclash
    cases earlier with
    | value other found =>
      obtain ⟨rfl, hlist⟩ := hclash
      have hmem := mem_texts_iff.mpr hearlier
      rw [h hlist] at hmem
      cases hmem
    | flag flag => exact hclash
    | template found => exact hclash

theorem unclashing_flag_iff {flag : Flag} {items : List Item} :
    (∀ earlier ∈ items, ¬ earlier.Clash (.flag flag)) ↔ .flag flag ∉ items := by
  constructor
  · intro h hmem
    exact h _ hmem rfl
  · intro h earlier hearlier hclash
    cases earlier with
    | flag raised =>
      obtain rfl : raised = flag := hclash
      exact h hearlier
    | value option text => exact hclash
    | template text => exact hclash

theorem unclashing_template_iff {text : String} {items : List Item} :
    (∀ earlier ∈ items, ¬ earlier.Clash (.template text)) ↔ templates items = [] := by
  constructor
  · intro h
    rw [List.eq_nil_iff_forall_not_mem]
    intro found hfound
    exact h _ (mem_templates_iff.mp hfound) trivial
  · intro h earlier hearlier hclash
    cases earlier with
    | template found =>
      have hmem := mem_templates_iff.mpr hearlier
      rw [h] at hmem
      cases hmem
    | value option found => exact hclash
    | flag flag => exact hclash

end Item

theorem admissible_concat_iff {items : List Item} {item : Item} :
    Admissible (items ++ [item]) ↔
      Admissible items ∧ item.IsValid ∧ ∀ earlier ∈ items, ¬ earlier.Clash item := by
  constructor
  · rintro ⟨hvalid, honce⟩
    obtain ⟨honce, -, hclash⟩ := List.pairwise_append.mp honce
    obtain ⟨hitems, hitem⟩ := List.forall_mem_append.mp hvalid
    exact ⟨⟨hitems, honce⟩, hitem _ List.mem_cons_self,
      fun earlier hearlier => hclash earlier hearlier _ List.mem_cons_self⟩
  · rintro ⟨⟨hvalid, honce⟩, hitem, hclash⟩
    refine ⟨?_, ?_⟩
    · rw [List.forall_mem_append, List.forall_mem_singleton]
      exact ⟨hvalid, hitem⟩
    · rw [List.pairwise_append]
      refine ⟨honce, List.pairwise_singleton _ _, ?_⟩
      intro earlier hearlier other hother
      obtain rfl := List.mem_singleton.mp hother
      exact hclash earlier hearlier

/-- **What is given for an option that is given once.** -/
theorem Admissible.texts_eq {option : ValueOption} {text : String} {items : List Item}
    (h : Admissible items) (hlist : option.isList = false) (hmem : .value option text ∈ items) :
    Item.texts option items = [text] := by
  obtain ⟨before, after, rfl⟩ := List.append_of_mem hmem
  obtain ⟨-, hrest, hbefore⟩ := List.pairwise_append.mp h.once
  have hnone : Item.texts option before = [] :=
    Item.unclashing_value_iff.mp
      (fun earlier hearlier => hbefore earlier hearlier _ List.mem_cons_self) hlist
  have hnone' : Item.texts option after = [] := by
    rw [List.eq_nil_iff_forall_not_mem]
    intro found hfound
    exact (List.pairwise_cons.mp hrest).1 _ (Item.mem_texts_iff.mp hfound) ⟨rfl, hlist⟩
  rw [List.append_cons, Item.texts_append, Item.texts_append, hnone, hnone', Item.texts_value,
    if_pos rfl]
  rfl

end CommandLine

namespace Options

open CommandLine

/-! ## Taking in one item -/

/-- Whether an option has a value. -/
def holds (options : Options) : ValueOption → Bool
  | .config => options.config.isSome
  | .output => options.output.isSome
  | .commitNumber => options.overrides.commitNumber.isSome
  | .projectVersion => options.overrides.version.isSome
  | .mainpage => options.overrides.useMdfileAsMainpage.isSome
  | .input => options.overrides.input.isSome
  | .examplePath => options.overrides.examplePath.isSome
  | .stripFromPath => options.overrides.stripFromPath.isSome

/-- The options when one has got a value, whatever it had before. -/
def put (options : Options) : ValueOption → String → Options
  | .config, text => { options with config := some text }
  | .output, text => { options with output := some text }
  | .commitNumber, text =>
    { options with overrides := { options.overrides with commitNumber := some text } }
  | .projectVersion, text =>
    { options with overrides := { options.overrides with version := some text } }
  | .mainpage, text =>
    { options with
      overrides := { options.overrides with useMdfileAsMainpage := some (text == "true") } }
  | .input, text =>
    { options with
      overrides := { options.overrides with input := more options.overrides.input text } }
  | .examplePath, text =>
    { options with
      overrides :=
        { options.overrides with examplePath := more options.overrides.examplePath text } }
  | .stripFromPath, text =>
    { options with
      overrides :=
        { options.overrides with stripFromPath := more options.overrides.stripFromPath text } }

section Judging

variable {ε α β : Type}

theorem bind_eq_ok_iff {x : Except ε α} {f : α → Except ε β} {b : β} :
    x >>= f = .ok b ↔ ∃ a, x = .ok a ∧ f a = .ok b := by
  cases x with
  | error e => simp [bind, Except.bind]
  | ok a => simp [bind, Except.bind]

theorem pure_eq_ok_iff {a b : α} : (pure a : Except ε α) = .ok b ↔ a = b := by
  simp [pure, Except.pure]

theorem once_eq_ok_iff {option : String} {current next : Option α} {value : α} :
    once option current value = .ok next ↔ current.isSome = false ∧ some value = next := by
  cases current with
  | none => simp [once]
  | some found => simp [once]

theorem path_eq_ok_iff {text found : String} :
    path text = .ok found ↔ text ≠ "" ∧ text = found := by
  by_cases h : text = ""
  · simp [path, h]
  · simp [path, h]

theorem boolean_eq_ok_iff {text : String} {flag : Bool} :
    boolean text = .ok flag ↔ (text = "true" ∨ text = "false") ∧ (text == "true") = flag := by
  by_cases htrue : text = "true"
  · simp [boolean, htrue]
  · by_cases hfalse : text = "false"
    · simp [boolean, hfalse]
    · simp [boolean, htrue, hfalse]

end Judging

/-- **When a value can be given to an option**, and what comes of it. -/
theorem give_eq_ok_iff {options next : Options} {option : ValueOption} {text : String} :
    options.give option text = .ok next ↔
      (Item.value option text).IsValid ∧ (option.isList = false → options.holds option = false) ∧
        options.put option text = next := by
  cases option with
  | config =>
    simp only [give, bind_eq_ok_iff, path_eq_ok_iff, once_eq_ok_iff, pure_eq_ok_iff]
    simp [Item.IsValid, ValueOption.isList, holds, put]
  | output =>
    simp only [give, bind_eq_ok_iff, path_eq_ok_iff, once_eq_ok_iff, pure_eq_ok_iff]
    simp [Item.IsValid, ValueOption.isList, holds, put]
  | commitNumber =>
    simp only [give, bind_eq_ok_iff, once_eq_ok_iff, pure_eq_ok_iff]
    simp [Item.IsValid, ValueOption.isList, holds, put]
  | projectVersion =>
    simp only [give, bind_eq_ok_iff, once_eq_ok_iff, pure_eq_ok_iff]
    simp [Item.IsValid, ValueOption.isList, holds, put]
  | mainpage =>
    simp only [give, bind_eq_ok_iff, boolean_eq_ok_iff, once_eq_ok_iff, pure_eq_ok_iff]
    simp [Item.IsValid, ValueOption.isList, holds, put]
  | input => simp [give, pure_eq_ok_iff, Item.IsValid, ValueOption.isList, put]
  | examplePath => simp [give, pure_eq_ok_iff, Item.IsValid, ValueOption.isList, put]
  | stripFromPath => simp [give, pure_eq_ok_iff, Item.IsValid, ValueOption.isList, put]

end Options

namespace CommandLine

namespace Item

/-! ## Taking in all items -/

theorem holds_options_iff {option : ValueOption} {items : List Item} :
    (options items).holds option = false ↔ texts option items = [] := by
  have hentries : ∀ other, (entries other items).isSome = false ↔ texts other items = [] := by
    intro other
    rw [entries]
    cases texts other items with
    | nil => simp
    | cons first others => simp
  cases option with
  | config => simp [Options.holds, options]
  | output => simp [Options.holds, options]
  | commitNumber => simp [Options.holds, options, settings]
  | projectVersion => simp [Options.holds, options, settings]
  | mainpage => simp [Options.holds, options, settings]
  | input => exact hentries .input
  | examplePath => exact hentries .examplePath
  | stripFromPath => exact hentries .stripFromPath

theorem put_options {option : ValueOption} {items : List Item}
    (h : option.isList = false → texts option items = []) (text : String) :
    (options items).put option text = options (items ++ [.value option text]) := by
  cases option with
  | config => simp [Options.put, options, settings, entries_concat_of_texts, h rfl]
  | output => simp [Options.put, options, settings, entries_concat_of_texts, h rfl]
  | commitNumber => simp [Options.put, options, settings, entries_concat_of_texts, h rfl]
  | projectVersion => simp [Options.put, options, settings, entries_concat_of_texts, h rfl]
  | mainpage => simp [Options.put, options, settings, entries_concat_of_texts, h rfl]
  | input => simp [Options.put, options, settings, entries_concat_of_texts, entries_concat]
  | examplePath => simp [Options.put, options, settings, entries_concat_of_texts, entries_concat]
  | stripFromPath => simp [Options.put, options, settings, entries_concat_of_texts, entries_concat]

theorem settings_concat_of_texts {item : Item} (h : ∀ option, texts option [item] = [])
    (items : List Item) : settings (items ++ [item]) = settings items := by
  simp [settings, entries_concat_of_texts, h]

theorem raiseFlag_options_iff {flag : Flag} {items : List Item} {next : Options} :
    (options items).raiseFlag flag = .ok next ↔
      .flag flag ∉ items ∧ options (items ++ [.flag flag]) = next := by
  have hsettings := settings_concat_of_texts (texts_flag · flag) items
  cases flag with
  | check =>
    by_cases h : .flag .check ∈ items
    · simp [Options.raiseFlag, Options.isRaised, options, h]
    · simp [Options.raiseFlag, Options.isRaised, options, hsettings, h]
  | printTemplate =>
    by_cases h : .flag .printTemplate ∈ items
    · simp [Options.raiseFlag, Options.isRaised, options, h]
    · simp [Options.raiseFlag, Options.isRaised, options, hsettings, h]
  | fields =>
    by_cases h : .flag .fields ∈ items
    · simp [Options.raiseFlag, Options.isRaised, options, h]
    · simp [Options.raiseFlag, Options.isRaised, options, hsettings, h]
  | verbose =>
    by_cases h : .flag .verbose ∈ items
    · simp [Options.raiseFlag, Options.isRaised, options, h]
    · simp [Options.raiseFlag, Options.isRaised, options, hsettings, h]

theorem giveTemplate_options_iff {text : String} {items : List Item} {next : Options} :
    (options items).giveTemplate text = .ok next ↔
      text ≠ "" ∧ templates items = [] ∧ options (items ++ [.template text]) = next := by
  have hsettings := settings_concat_of_texts (texts_template · text) items
  cases h : templates items with
  | nil =>
    by_cases htext : text = ""
    · simp [Options.giveTemplate, Options.path, options, h, htext, Functor.map, Except.map]
    · simp [Options.giveTemplate, Options.path, options, hsettings, h, htext, Functor.map,
        Except.map]
  | cons first others => simp [Options.giveTemplate, options, h]

end Item

/-- **One more item is taken in** when it makes no mistake. -/
theorem addTo_options_iff {items : List Item} {item : Item} {next : Options}
    (h : Admissible items) :
    Item.addTo (Item.options items) item = .ok next ↔
      Admissible (items ++ [item]) ∧ Item.options (items ++ [item]) = next := by
  rw [admissible_concat_iff]
  cases item with
  | flag flag =>
    rw [Item.unclashing_flag_iff, Item.addTo, Item.raiseFlag_options_iff]
    simp [Item.IsValid, h]
  | template text =>
    rw [Item.unclashing_template_iff, Item.addTo, Item.giveTemplate_options_iff]
    simp [Item.IsValid, h, and_assoc]
  | value option text =>
    rw [Item.unclashing_value_iff, Item.addTo, Options.give_eq_ok_iff, Item.holds_options_iff]
    constructor
    · rintro ⟨hvalid, honce, rfl⟩
      exact ⟨⟨h, hvalid, honce⟩, (Item.put_options honce text).symm⟩
    · rintro ⟨⟨-, hvalid, honce⟩, rfl⟩
      exact ⟨hvalid, honce, Item.put_options honce text⟩

/-- **Items are taken in one after the other exactly when they are admissible.** -/
theorem foldlM_addTo_iff {items : List Item} {options : Options} :
    items.foldlM Item.addTo {} = .ok options ↔ Admissible items ∧ Item.options items = options := by
  induction items using List.reverseRecOn generalizing options with
  | nil =>
    have hnil : Admissible [] := ⟨fun _ h => (nomatch h), .nil⟩
    simp [hnil, Item.options, Item.settings, Item.entries, Item.texts, Item.templates,
      pure, Except.pure]
  | append_singleton items item ih =>
    rw [List.foldlM_append, Options.bind_eq_ok_iff]
    constructor
    · rintro ⟨before, hbefore, hitem⟩
      obtain ⟨hitems, rfl⟩ := ih.mp hbefore
      simp only [List.foldlM_cons, List.foldlM_nil, bind_pure] at hitem
      exact (addTo_options_iff hitems).mp hitem
    · rintro ⟨hitems, rfl⟩
      have hbefore := (admissible_concat_iff.mp hitems).1
      refine ⟨_, ih.mpr ⟨hbefore, rfl⟩, ?_⟩
      simp only [List.foldlM_cons, List.foldlM_nil, bind_pure]
      exact (addTo_options_iff hbefore).mpr ⟨hitems, rfl⟩

end CommandLine

/-! ## Leaving items out -/

namespace CommandLine

theorem Admissible.filter {items : List Item} (h : Admissible items) (keep : Item → Bool) :
    Admissible (items.filter keep) :=
  ⟨fun item hitem => h.valid item (List.mem_filter.mp hitem).1, h.once.sublist List.filter_sublist⟩

namespace Item

section Filter

variable {keep : Item → Bool} (items : List Item)

theorem texts_filter {option : ValueOption} (h : ∀ text, keep (.value option text) = true) :
    texts option (items.filter keep) = texts option items := by
  rw [texts, List.filterMap_filter]
  refine congrArg (List.filterMap · items) (funext fun item => ?_)
  cases item with
  | value other text =>
    by_cases hother : other = option
    · simp [hother, h]
    · simp [hother]
  | flag flag => simp
  | template text => simp

theorem templates_filter (h : ∀ text, keep (.template text) = true) :
    templates (items.filter keep) = templates items := by
  rw [templates, List.filterMap_filter]
  refine congrArg (List.filterMap · items) (funext fun item => ?_)
  cases item with
  | value option text => simp
  | flag flag => simp
  | template text => simp [h]

theorem settings_filter (h : ∀ option text, option ≠ .output → keep (.value option text) = true) :
    settings (items.filter keep) = settings items := by
  have htexts : ∀ option, option ≠ .output →
      texts option (items.filter keep) = texts option items :=
    fun option hoption => texts_filter items fun text => h option text hoption
  simp only [settings, entries, htexts, ne_eq, reduceCtorEq, not_false_eq_true]

theorem flag_mem_filter_iff {flag : Flag} (h : keep (.flag flag) = true) :
    .flag flag ∈ items.filter keep ↔ .flag flag ∈ items := by
  rw [List.mem_filter, and_iff_left h]

theorem filter_isCheck_of_not_mem {items : List Item} (h : .flag .check ∉ items) :
    items.filter (!·.isCheck) = items := by
  refine List.filter_eq_self.mpr fun item hitem => ?_
  cases item with
  | value option text => rfl
  | template text => rfl
  | flag raised =>
    cases raised with
    | check => exact absurd hitem h
    | _ => rfl

end Filter

/-- **Without the place it goes to**, the rendered template is printed; all else is as it was. -/
theorem options_without_output (items : List Item) :
    options (items.filter (!·.isOutput)) = { options items with output := none } := by
  have houtput : texts .output (items.filter (!·.isOutput)) = [] := by
    rw [List.eq_nil_iff_forall_not_mem]
    intro text htext
    cases (List.mem_filter.mp (mem_texts_iff.mp htext)).2
  have hsettings : settings (items.filter (!·.isOutput)) = settings items := by
    refine settings_filter items fun option text hoption => ?_
    cases option with
    | output => exact absurd rfl hoption
    | _ => rfl
  have hconfig : texts .config (items.filter (!·.isOutput)) = texts .config items :=
    texts_filter items fun _ => rfl
  have htemplate : templates (items.filter (!·.isOutput)) = templates items :=
    templates_filter items fun _ => rfl
  have hflag : ∀ raised, flag raised ∈ items.filter (!·.isOutput) ↔ flag raised ∈ items :=
    fun _ => flag_mem_filter_iff items rfl
  simp only [options, houtput, hsettings, hconfig, htemplate, hflag, List.head?_nil]

/-- **Without the call for a check**, all else is as it was. -/
theorem options_without_check (items : List Item) :
    options (items.filter (!·.isCheck)) = { options items with check := false } := by
  have hcheck : flag .check ∉ items.filter (!·.isCheck) := fun h =>
    nomatch (List.mem_filter.mp h).2
  have hsettings : settings (items.filter (!·.isCheck)) = settings items :=
    settings_filter items fun _ _ _ => rfl
  have htexts : ∀ option, texts option (items.filter (!·.isCheck)) = texts option items :=
    fun _ => texts_filter items fun _ => rfl
  have htemplate : templates (items.filter (!·.isCheck)) = templates items :=
    templates_filter items fun _ => rfl
  have hflag : ∀ raised, raised ≠ .check →
      (flag raised ∈ items.filter (!·.isCheck) ↔ flag raised ∈ items) := by
    intro raised hraised
    cases raised with
    | check => exact absurd rfl hraised
    | _ => exact flag_mem_filter_iff items rfl
  simp only [options, hcheck, hsettings, htexts, htemplate, hflag, decide_false, ne_eq,
    reduceCtorEq, not_false_eq_true]

end Item

end CommandLine

/-- **A command line asks for a run exactly when it spells admissible items**, with the options that
the items come to. -/
theorem Invocation.ofArguments_eq_run_iff {arguments : List String} {options : Options} :
    ofArguments arguments = .ok (.run options) ↔
      ∃ items, CommandLine.Spells arguments items ∧ CommandLine.Admissible items ∧
        CommandLine.Item.options items = options := by
  simp only [ofArguments_run_iff, CommandLine.foldlM_addTo_iff]

end Doxyfile
