import Doxyfile.CommandLine.Arguments

/-!
# How a command line is spelled

A command line gives items one after the other: options with their values, flags, and the file of
the template. An item can be spelled in several ways, and `Spells` is the relation of arguments to
the items that they spell: `Letters` and `Part` are its rules for the letters behind a hyphen and
for an argument by itself.

Reading is one pass over the arguments that judges every item on the way.
`Invocation.ofArguments_run_iff` takes the two apart: arguments are read exactly when they spell
items that can be taken one after the other (`Item.addTo`), and the options that are read are those
that the items come to.
-/

namespace Doxyfile

namespace CommandLine

/-! ## Items and their spellings -/

/-- What a command line gives at one place. -/
inductive Item where
  /-- An option with its value. -/
  | value (option : ValueOption) (text : String)
  | flag (flag : Flag)
  /-- An argument that is no option. -/
  | template (text : String)
deriving DecidableEq, Repr

/-- The options with an item taken in, if it can be. -/
def Item.addTo (options : Options) : Item → Except UsageError Options
  | .value option text => options.give option text
  | .flag raised => options.raiseFlag raised
  | .template text => options.giveTemplate text

/-- **Letters spell items**, and may leave an option without its value. -/
inductive Letters : List Char → List Item → Option ValueOption → Prop
  | nil : Letters [] [] none
  | flag {letter : Char} {flag : Flag} {letters : List Char} {items : List Item}
      {waiting : Option ValueOption} (h : Switch.ofLetter? letter = some (.flag flag))
      (hletters : Letters letters items waiting) :
      Letters (letter :: letters) (.flag flag :: items) waiting
  | named {letter : Char} {option : ValueOption}
      (h : Switch.ofLetter? letter = some (.value option)) :
      Letters [letter] [] (some option)
  | equals {letter : Char} {option : ValueOption} {cs : List Char}
      (h : Switch.ofLetter? letter = some (.value option)) :
      Letters (letter :: '=' :: cs) [.value option (String.ofList cs)] none
  | joined {letter : Char} {option : ValueOption} {c : Char} {cs : List Char}
      (h : Switch.ofLetter? letter = some (.value option)) (hc : c ≠ '=') :
      Letters (letter :: c :: cs) [.value option (String.ofList (c :: cs))] none

/-- **An argument by itself spells items**, and may leave an option without its value. -/
inductive Part : String → List Item → Option ValueOption → Prop
  | template {text : String} (h : Invocation.looksLikeOption text = false) :
      Part text [.template text] none
  | flag (flag : Flag) : Part flag.text [.flag flag] none
  | named (option : ValueOption) : Part option.text [] (some option)
  | joined (option : ValueOption) (text : String) :
      Part (option.text ++ "=" ++ text) [.value option text] none
  | letters {letters : List Char} {items : List Item} {waiting : Option ValueOption}
      (hne : letters ≠ []) (h : Letters letters items waiting) :
      Part (String.ofList ('-' :: letters)) items waiting

/-- **Arguments spell items.** Behind an option that is left without its value comes the value, and
behind two hyphens alone there are no options. -/
inductive Spells : List String → List Item → Prop
  | nil : Spells [] []
  | complete {argument : String} {arguments : List String} {group items : List Item}
      (h : Part argument group none) (hrest : Spells arguments items) :
      Spells (argument :: arguments) (group ++ items)
  | separate {argument text : String} {arguments : List String} {group items : List Item}
      {option : ValueOption} (h : Part argument group (some option))
      (htext : Invocation.looksLikeOption text = false) (hrest : Spells arguments items) :
      Spells (argument :: text :: arguments) (group ++ .value option text :: items)
  | verbatim (texts : List String) : Spells ("--" :: texts) (texts.map .template)

end CommandLine

open CommandLine

namespace Progress

/-- What has been read when items have been taken in and an option may wait for its value. -/
def ofItems (options : Options) (items : List Item) (waiting : Option ValueOption) :
    Except UsageError Progress :=
  (going · waiting) <$> items.foldlM Item.addTo options

theorem ofItems_eq_going_iff {options next : Options} {items : List Item}
    {waiting still : Option ValueOption} :
    ofItems options items waiting = .ok (.going next still) ↔
      items.foldlM Item.addTo options = .ok next ∧ waiting = still := by
  unfold ofItems
  cases items.foldlM Item.addTo options with
  | error error => exact iff_of_false (fun h => nomatch h) (fun h => nomatch h.1)
  | ok last =>
    show Except.ok (going last waiting) = _ ↔ _
    rw [Except.ok.injEq, Except.ok.injEq, going.injEq]

theorem ofItems_value (options : Options) (option : ValueOption) (text : String) :
    ofItems options [.value option text] none = (going · none) <$> options.give option text := by
  rw [ofItems, List.foldlM_cons, Item.addTo]
  cases options.give option text with
  | error error => rfl
  | ok next => rfl

theorem ofItems_flag (options : Options) (flag : Flag) (items : List Item)
    (waiting : Option ValueOption) :
    ofItems options (.flag flag :: items) waiting =
      options.raiseFlag flag >>= fun next => ofItems next items waiting := by
  rw [ofItems, List.foldlM_cons, Item.addTo]
  cases options.raiseFlag flag with
  | error error => rfl
  | ok next => rfl

/-! ## Letters behind a hyphen -/

section Letters

variable {letter : Char} {letters : List Char}

theorem readLetters_flag {flag : Flag} (h : Switch.ofLetter? letter = some (.flag flag))
    (options : Options) :
    readLetters options (letter :: letters) =
      options.raiseFlag flag >>= fun next => readLetters next letters := by
  simp only [readLetters, h]

variable {option : ValueOption} (h : Switch.ofLetter? letter = some (.value option))
include h

theorem readLetters_named (options : Options) :
    readLetters options [letter] = ofItems options [] (some option) := by
  simp only [readLetters, h]
  rfl

theorem readLetters_equals (options : Options) (cs : List Char) :
    readLetters options (letter :: '=' :: cs) =
      ofItems options [.value option (String.ofList cs)] none := by
  simp only [readLetters, h, ofItems_value]
  rfl

theorem readLetters_joined {c : Char} (hc : c ≠ '=') (options : Options) (cs : List Char) :
    readLetters options (letter :: c :: cs) =
      ofItems options [.value option (String.ofList (c :: cs))] none := by
  simp only [readLetters, h, ofItems_value]
  split
  next heq => cases heq
  next heq => exact absurd (List.cons.inj heq).1 hc
  next => rfl

end Letters

/-- **Letters are read as they are spelled.** -/
theorem readLetters_of_letters {letters : List Char} {items : List Item}
    {waiting : Option ValueOption} (h : Letters letters items waiting) (options : Options) :
    readLetters options letters = ofItems options items waiting := by
  induction h generalizing options with
  | nil => rfl
  | flag h _ ih => simp only [readLetters_flag h, ofItems_flag, ih]
  | named h => exact readLetters_named h options
  | equals h => exact readLetters_equals h options _
  | joined h hc => exact readLetters_joined h hc options _

/-- **What is read of letters is spelled by them.** -/
theorem exists_letters {letters : List Char} {options next : Options}
    {waiting : Option ValueOption} (h : readLetters options letters = .ok (.going next waiting)) :
    ∃ items, Letters letters items waiting ∧ items.foldlM Item.addTo options = .ok next := by
  induction letters generalizing options with
  | nil =>
    cases h
    exact ⟨[], .nil, rfl⟩
  | cons letter letters ih =>
    cases hletter : Switch.ofLetter? letter with
    | none => simp only [readLetters, hletter] at h; cases h
    | some switch =>
      cases switch with
      | help => simp only [readLetters, hletter] at h; cases h
      | flag flag =>
        rw [readLetters_flag hletter] at h
        cases hflag : options.raiseFlag flag with
        | error error => rw [hflag] at h; cases h
        | ok raised =>
          rw [hflag] at h
          obtain ⟨items, hitems, hnext⟩ := ih h
          refine ⟨.flag flag :: items, .flag hletter hitems, ?_⟩
          rw [List.foldlM_cons, Item.addTo, hflag]
          exact hnext
      | value option =>
        rcases letters with _ | ⟨c, cs⟩
        · rw [readLetters_named hletter] at h
          obtain ⟨hnext, rfl⟩ := ofItems_eq_going_iff.mp h
          exact ⟨_, .named hletter, hnext⟩
        · by_cases hc : c = '='
          · subst hc
            rw [readLetters_equals hletter] at h
            obtain ⟨hnext, rfl⟩ := ofItems_eq_going_iff.mp h
            exact ⟨_, .equals hletter, hnext⟩
          · rw [readLetters_joined hletter hc] at h
            obtain ⟨hnext, rfl⟩ := ofItems_eq_going_iff.mp h
            exact ⟨_, .joined hletter hc, hnext⟩

/-! ## A name behind two hyphens -/

theorem readName_flag (options : Options) (flag : Flag) :
    readName options (flag.text.toList.drop 2) = ofItems options [.flag flag] none := by
  rw [ofItems_flag]
  cases flag <;> rfl

theorem readName_named (options : Options) (option : ValueOption) :
    readName options (option.text.toList.drop 2) = ofItems options [] (some option) := by
  cases option <;> rfl

theorem readName_joined (options : Options) (option : ValueOption) (cs : List Char) :
    readName options (option.text.toList.drop 2 ++ '=' :: cs) =
      ofItems options [.value option (String.ofList cs)] none := by
  rw [ofItems_value]
  cases option <;> rfl

theorem text_of_ofName?_flag {name : String} {flag : Flag}
    (h : Switch.ofName? name = some (.flag flag)) : flag.text = "--" ++ name := by
  unfold Switch.ofName? at h
  split at h <;> cases h <;> rfl

theorem text_of_ofName?_value {name : String} {option : ValueOption}
    (h : Switch.ofName? name = some (.value option)) : option.text = "--" ++ name := by
  unfold Switch.ofName? at h
  split at h <;> cases h <;> rfl

/-- **What is read of a name is spelled by it.** -/
theorem exists_part_of_readName {cs : List Char} {options next : Options}
    {waiting : Option ValueOption} (h : readName options cs = .ok (.going next waiting)) :
    ∃ items, Part (String.ofList ('-' :: '-' :: cs)) items waiting ∧
      items.foldlM Item.addTo options = .ok next := by
  -- the name is what is in front of the first equals sign, if there is one
  have hcs : cs.takeWhile (· != '=') ++ cs.dropWhile (· != '=') = cs :=
    List.takeWhile_append_dropWhile
  have hhead := List.head?_dropWhile_not (· != '=') cs
  unfold readName at h
  generalize cs.takeWhile (· != '=') = name at h hcs
  generalize cs.dropWhile (· != '=') = rest at h hcs hhead
  subst hcs
  cases rest with
  | nil =>
    have hargument : String.ofList ('-' :: '-' :: (name ++ [])) = "--" ++ String.ofList name := by
      rw [← String.toList_inj]
      simp
    cases hswitch : Switch.ofName? (String.ofList name) with
    | none => simp only [hswitch] at h; cases h
    | some switch =>
      simp only [hswitch] at h
      cases switch with
      | help => cases h
      | flag flag =>
        have hread : ofItems options [.flag flag] none = .ok (.going next waiting) := by
          rw [ofItems_flag]
          exact h
        obtain ⟨hnext, rfl⟩ := ofItems_eq_going_iff.mp hread
        rw [hargument, ← text_of_ofName?_flag hswitch]
        exact ⟨_, .flag flag, hnext⟩
      | value option =>
        cases h
        rw [hargument, ← text_of_ofName?_value hswitch]
        exact ⟨_, .named option, rfl⟩
  | cons c value =>
    obtain rfl : c = '=' := by simpa using hhead
    have hargument : String.ofList ('-' :: '-' :: (name ++ '=' :: value)) =
        "--" ++ String.ofList name ++ "=" ++ String.ofList value := by
      rw [← String.toList_inj]
      simp
    cases hswitch : Switch.ofName? (String.ofList name) with
    | none => simp only [hswitch] at h; cases h
    | some switch =>
      simp only [hswitch] at h
      cases switch with
      | help => cases h
      | flag flag => cases h
      | value option =>
        have hread : ofItems options [.value option (String.ofList value)] none =
            .ok (.going next waiting) := by
          rw [ofItems_value]
          exact h
        obtain ⟨hnext, rfl⟩ := ofItems_eq_going_iff.mp hread
        rw [hargument, ← text_of_ofName?_value hswitch]
        exact ⟨_, .joined option _, hnext⟩

end Progress

/-! ## An argument by itself -/

theorem Invocation.looksLikeOption_eq_false_iff {argument : String} :
    looksLikeOption argument = false ↔ ∀ letter cs, argument.toList ≠ '-' :: letter :: cs := by
  unfold looksLikeOption
  split
  next letter cs heq => exact iff_of_false (fun h => nomatch h) (fun h => h _ _ heq)
  next hne => exact iff_of_true rfl hne

namespace Progress

/-- What is read of an argument that is not two hyphens alone. -/
def ofArgument (options : Options) (argument : String) : Except UsageError Progress :=
  match argument.toList with
  | '-' :: '-' :: cs => readName options cs
  | '-' :: letter :: cs => readLetters options (letter :: cs)
  | _ => do pure (.going (← options.giveTemplate argument) none)

section Argument

variable {argument : String} (options : Options)

theorem ofArgument_name {cs : List Char} (h : argument.toList = '-' :: '-' :: cs) :
    ofArgument options argument = readName options cs := by
  simp only [ofArgument, h]

theorem ofArgument_letters {letter : Char} {cs : List Char} (hletter : letter ≠ '-')
    (h : argument.toList = '-' :: letter :: cs) :
    ofArgument options argument = readLetters options (letter :: cs) := by
  simp only [ofArgument, h]

theorem ofArgument_template (h : Invocation.looksLikeOption argument = false) :
    ofArgument options argument = ofItems options [.template argument] none := by
  have hne := Invocation.looksLikeOption_eq_false_iff.mp h
  unfold ofArgument
  split
  next heq => exact absurd heq (hne _ _)
  next heq => exact absurd heq (hne _ _)
  next =>
    rw [ofItems, List.foldlM_cons, Item.addTo]
    cases options.giveTemplate argument with
    | error error => rfl
    | ok next => rfl

end Argument

end Progress

namespace CommandLine

/-- A hyphen is no letter of an option. -/
theorem Letters.head_ne_hyphen {letter : Char} {letters : List Char} {items : List Item}
    {waiting : Option ValueOption} (h : Letters (letter :: letters) items waiting) :
    letter ≠ '-' := by
  rintro rfl
  cases h with
  | flag h => cases h
  | named h => cases h
  | equals h => cases h
  | joined h => cases h

/-- Two hyphens alone spell no items by themselves. -/
theorem Part.ne_verbatim {argument : String} {items : List Item} {waiting : Option ValueOption}
    (h : Part argument items waiting) : argument ≠ "--" := by
  intro hargument
  cases h with
  | template h =>
    rw [hargument] at h
    cases h
  | flag flag => cases flag <;> exact absurd hargument (by decide)
  | named option => cases option <;> exact absurd hargument (by decide)
  | joined option text =>
    have hlength := congrArg String.length hargument
    have hlong : 2 < option.text.length := by cases option <;> decide
    rw [String.length_append, String.length_append] at hlength
    have : "--".length = 2 := rfl
    omega
  | letters hne h =>
    obtain ⟨letter, cs, rfl⟩ := List.exists_cons_of_ne_nil hne
    have hlist : '-' :: letter :: cs = ['-', '-'] := by simpa using congrArg String.toList hargument
    exact h.head_ne_hyphen (List.cons.inj (List.cons.inj hlist).2).1

end CommandLine

namespace Progress

/-- **An argument is read as it is spelled.** -/
theorem ofArgument_of_part {argument : String} {items : List Item} {waiting : Option ValueOption}
    (h : Part argument items waiting) (options : Options) :
    ofArgument options argument = ofItems options items waiting := by
  cases h with
  | template h => exact ofArgument_template options h
  | flag flag =>
    rw [← readName_flag]
    exact ofArgument_name options (by cases flag <;> rfl)
  | named option =>
    rw [← readName_named]
    exact ofArgument_name options (by cases option <;> rfl)
  | joined option text =>
    have hread := readName_joined options option text.toList
    rw [String.ofList_toList] at hread
    rw [← hread]
    refine ofArgument_name options ?_
    rw [String.toList_append, String.toList_append]
    cases option <;> rfl
  | letters hne h =>
    obtain ⟨letter, cs, rfl⟩ := List.exists_cons_of_ne_nil hne
    rw [ofArgument_letters options h.head_ne_hyphen String.toList_ofList,
      readLetters_of_letters h]

/-- **What is read of an argument is spelled by it.** -/
theorem exists_part {argument : String} {options next : Options} {waiting : Option ValueOption}
    (h : ofArgument options argument = .ok (.going next waiting)) :
    ∃ items, Part argument items waiting ∧ items.foldlM Item.addTo options = .ok next := by
  by_cases hlook : Invocation.looksLikeOption argument = false
  · rw [ofArgument_template options hlook] at h
    obtain ⟨hnext, rfl⟩ := ofItems_eq_going_iff.mp h
    exact ⟨_, .template hlook, hnext⟩
  · rw [Invocation.looksLikeOption_eq_false_iff] at hlook
    simp only [Classical.not_forall, ne_eq, Classical.not_not] at hlook
    obtain ⟨letter, cs, hargument⟩ := hlook
    have hspelled : argument = String.ofList ('-' :: letter :: cs) := by
      rw [← hargument, String.ofList_toList]
    by_cases hletter : letter = '-'
    · subst hletter
      rw [ofArgument_name options hargument] at h
      rw [hspelled]
      exact exists_part_of_readName h
    · rw [ofArgument_letters options hletter hargument] at h
      obtain ⟨items, hitems, hnext⟩ := exists_letters h
      rw [hspelled]
      exact ⟨items, .letters (List.cons_ne_nil _ _) hitems, hnext⟩

end Progress

/-! ## A command line -/

namespace Invocation

theorem read_argument {options : Options} {argument : String} {arguments : List String}
    (h : argument ≠ "--") :
    read options none (argument :: arguments) =
      Progress.ofArgument options argument >>= fun progress =>
        match progress with
        | .help => .ok .help
        | .going options waiting => read options waiting arguments := by
  rw [read, if_neg h]
  split
  next heq => rw [Progress.ofArgument_name options heq]; rfl
  next hne heq => rw [Progress.ofArgument_letters options hne heq]; rfl
  next _ hne =>
    rw [Progress.ofArgument_template options (looksLikeOption_eq_false_iff.mpr hne)]
    rw [Progress.ofItems, List.foldlM_cons, Item.addTo]
    cases options.giveTemplate argument with
    | error error => rfl
    | ok next => rfl

theorem read_waiting {options : Options} {option : ValueOption} {text : String}
    {arguments : List String} (h : looksLikeOption text = false) :
    read options (some option) (text :: arguments) =
      options.give option text >>= fun next => read next none arguments := by
  rw [read, h]
  rfl

theorem read_verbatim (options : Options) (texts : List String) :
    read options none ("--" :: texts) =
      run <$> (texts.map Item.template).foldlM Item.addTo options := by
  rw [read, if_pos rfl, List.foldlM_map]
  show (texts.foldlM Options.giveTemplate options).bind _ =
    (texts.foldlM Options.giveTemplate options).map run
  cases texts.foldlM Options.giveTemplate options with
  | error error => rfl
  | ok next => rfl

/-- **Arguments are read as they are spelled**, whether or not their items can all be taken in. -/
theorem read_of_spells {arguments : List String} {items : List Item} (h : Spells arguments items)
    (options : Options) :
    read options none arguments = run <$> items.foldlM Item.addTo options := by
  induction h generalizing options with
  | nil => rfl
  | @complete argument arguments group items h _ ih =>
    rw [read_argument h.ne_verbatim, Progress.ofArgument_of_part h, Progress.ofItems,
      List.foldlM_append]
    cases group.foldlM Item.addTo options with
    | error error => rfl
    | ok next => exact ih next
  | @separate argument text arguments group items option h htext _ ih =>
    rw [read_argument h.ne_verbatim, Progress.ofArgument_of_part h, Progress.ofItems,
      List.foldlM_append]
    cases group.foldlM Item.addTo options with
    | error error => rfl
    | ok next =>
      show read next (some option) (text :: arguments) = run <$> List.foldlM _ next (_ :: items)
      rw [read_waiting htext, List.foldlM_cons, Item.addTo]
      cases next.give option text with
      | error error => rfl
      | ok given => exact ih given
  | verbatim texts => exact read_verbatim options texts

/-- **What is read of arguments is spelled by them**, also when an option waits for its value. -/
theorem exists_spells {arguments : List String} {final : Options} :
    (∀ options, read options none arguments = .ok (.run final) →
      ∃ items, Spells arguments items ∧ items.foldlM Item.addTo options = .ok final) ∧
    ∀ options option, read options (some option) arguments = .ok (.run final) →
      ∃ text others items, arguments = text :: others ∧ looksLikeOption text = false ∧
        Spells others items ∧
        (.value option text :: items).foldlM Item.addTo options = .ok final := by
  induction arguments with
  | nil =>
    refine ⟨fun options h => ?_, fun options option h => nomatch h⟩
    cases h
    exact ⟨[], .nil, rfl⟩
  | cons argument arguments ih =>
    obtain ⟨ihNone, ihSome⟩ := ih
    refine ⟨fun options h => ?_, fun options option h => ?_⟩
    · by_cases hverbatim : argument = "--"
      · subst hverbatim
        rw [read_verbatim] at h
        refine ⟨_, .verbatim arguments, ?_⟩
        cases hitems : (arguments.map Item.template).foldlM Item.addTo options with
        | error error => rw [hitems] at h; cases h
        | ok next => rw [hitems] at h; cases h; rfl
      · rw [read_argument hverbatim] at h
        cases hargument : Progress.ofArgument options argument with
        | error error => rw [hargument] at h; cases h
        | ok progress =>
          rw [hargument] at h
          cases progress with
          | help => cases h
          | going next waiting =>
            obtain ⟨group, hgroup, hnext⟩ := Progress.exists_part hargument
            cases waiting with
            | none =>
              obtain ⟨items, hitems, hfinal⟩ := ihNone next h
              refine ⟨group ++ items, .complete hgroup hitems, ?_⟩
              rw [List.foldlM_append, hnext]
              exact hfinal
            | some option =>
              obtain ⟨text, others, items, rfl, htext, hitems, hfinal⟩ := ihSome next option h
              refine ⟨_, .separate hgroup htext hitems, ?_⟩
              rw [List.foldlM_append, hnext]
              exact hfinal
    · cases hlook : looksLikeOption argument with
      | true => rw [read, hlook] at h; cases h
      | false =>
        rw [read_waiting hlook] at h
        cases hgive : options.give option argument with
        | error error => rw [hgive] at h; cases h
        | ok next =>
          rw [hgive] at h
          obtain ⟨items, hitems, hfinal⟩ := ihNone next h
          refine ⟨argument, arguments, items, rfl, hlook, hitems, ?_⟩
          rw [List.foldlM_cons, Item.addTo, hgive]
          exact hfinal

/-- **Arguments are understood exactly when they spell items that can be taken in**, and then they
ask for a run with the options that the items come to. -/
theorem ofArguments_run_iff {arguments : List String} {options : Options} :
    ofArguments arguments = .ok (.run options) ↔
      ∃ items, Spells arguments items ∧ items.foldlM Item.addTo {} = .ok options := by
  constructor
  · exact exists_spells.1 {}
  · rintro ⟨items, hitems, hoptions⟩
    rw [ofArguments, read_of_spells hitems, hoptions]
    rfl

end Invocation

/-! ## Leaving items out -/

namespace CommandLine

/-- An item that has a spelling in front of any other arguments. -/
def Item.IsPlain : Item → Prop
  | .template text => Invocation.looksLikeOption text = false
  | .value _ _ | .flag _ => True

theorem Letters.isPlain {letters : List Char} {items : List Item} {waiting : Option ValueOption}
    (h : Letters letters items waiting) : ∀ item ∈ items, item.IsPlain := by
  induction h with
  | nil => exact List.forall_mem_nil _
  | flag _ _ ih => exact List.forall_mem_cons.mpr ⟨trivial, ih⟩
  | named => exact List.forall_mem_nil _
  | equals => exact List.forall_mem_singleton.mpr trivial
  | joined => exact List.forall_mem_singleton.mpr trivial

theorem Part.isPlain {argument : String} {items : List Item} {waiting : Option ValueOption}
    (h : Part argument items waiting) : ∀ item ∈ items, item.IsPlain := by
  cases h with
  | template h => exact List.forall_mem_singleton.mpr h
  | flag => exact List.forall_mem_singleton.mpr trivial
  | named => exact List.forall_mem_nil _
  | joined => exact List.forall_mem_singleton.mpr trivial
  | letters _ h => exact h.isPlain

theorem exists_spells_append {arguments : List String} {group items : List Item}
    (hgroup : ∀ item ∈ group, item.IsPlain) (h : Spells arguments items) :
    ∃ longer, Spells longer (group ++ items) := by
  induction group with
  | nil => exact ⟨arguments, h⟩
  | cons item group ih =>
    obtain ⟨hitem, hothers⟩ := List.forall_mem_cons.mp hgroup
    obtain ⟨longer, hlonger⟩ := ih hothers
    cases item with
    | value option text =>
      have hspells := Spells.complete (.joined option text) hlonger
      exact ⟨_, hspells⟩
    | flag flag =>
      have hspells := Spells.complete (.flag flag) hlonger
      exact ⟨_, hspells⟩
    | template text =>
      have hspells := Spells.complete (.template hitem) hlonger
      exact ⟨_, hspells⟩

/-- **What is left of spelled items is spelled by some arguments**, whichever are left out. -/
theorem Spells.exists_filter {arguments : List String} {items : List Item}
    (h : Spells arguments items) (keep : Item → Bool) :
    ∃ fewer, Spells fewer (items.filter keep) := by
  have hleft : ∀ group : List Item, (∀ item ∈ group, item.IsPlain) →
      ∀ item ∈ group.filter keep, item.IsPlain :=
    fun group hgroup item hitem => hgroup item (List.mem_filter.mp hitem).1
  induction h with
  | nil => exact ⟨[], .nil⟩
  | complete h _ ih =>
    obtain ⟨fewer, hfewer⟩ := ih
    rw [List.filter_append]
    exact exists_spells_append (hleft _ h.isPlain) hfewer
  | @separate argument text arguments group items option h _ _ ih =>
    obtain ⟨fewer, hfewer⟩ := ih
    have hgroup : ∀ item ∈ group ++ [.value option text], item.IsPlain :=
      List.forall_mem_append.mpr ⟨h.isPlain, List.forall_mem_singleton.mpr trivial⟩
    rw [List.append_cons, List.filter_append]
    exact exists_spells_append (hleft _ hgroup) hfewer
  | verbatim texts =>
    rw [List.filter_map]
    exact ⟨_, .verbatim _⟩

end CommandLine

end Doxyfile
