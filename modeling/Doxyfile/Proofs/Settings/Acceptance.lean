import Mathlib
import Doxyfile.Proofs.Settings.Writing
import Doxyfile.Proofs.Toml.Keys

/-!
# What documents are settings

A document is settings when every entry of it fits: its key is the name of a field, and its value of
the kind that the field takes (`Fits`). An entry that does not fit has an offence, and only one
(`Offence`). Both are told here from the value as it stands in the document.

The order of the entries decides nothing but which offence is told of, the first one
(`Settings.ofEntries_eq_error_iff`). What is read of entries that fit is each field's own entry
(`Settings.given_of_ofEntries`), so entries in another order make the same settings.
`Settings.ofToml_acceptance` puts this together for the text of a document, whose keys are distinct.
-/

namespace Doxyfile

/-! ## Entries that fit and entries that do not -/

/-- The kind of values that a field takes. -/
def Field.kind : Field → Expectation
  | .commitNumber => .string
  | .version => .string
  | .useMdfileAsMainpage => .boolean
  | .input => .sequence
  | .examplePath => .sequence
  | .stripFromPath => .sequence

namespace Toml.Value

/-- The value is a text. -/
def IsString (value : Toml.Value) : Prop :=
  ∃ text, .string text = value

/-- **A value of a kind**: a text, a flag, or an array of which all items are texts. -/
inductive HasKind : Toml.Value → Expectation → Prop where
  | string (text : String) : HasKind (.string text) .string
  | boolean (flag : Bool) : HasKind (.boolean flag) .boolean
  | sequence {items : List Toml.Value} (h : ∀ item ∈ items, item.IsString) :
      HasKind (.array items) .sequence

/-- **A value that is not of a kind, and what is told of it**: in an array, of the first item that
is no text. -/
inductive Mismatch : Toml.Value → Expectation → SchemaError → Prop where
  | string {found : Toml.Value} (h : ¬ found.IsString) :
      Mismatch found .string (.wrongKind found .string)
  | boolean {found : Toml.Value} (h : ∀ flag, found ≠ .boolean flag) :
      Mismatch found .boolean (.wrongKind found .boolean)
  | sequence {found : Toml.Value} (h : ∀ items, found ≠ .array items) :
      Mismatch found .sequence (.wrongKind found .sequence)
  | item {front back : List Toml.Value} {found : Toml.Value}
      (hfront : ∀ item ∈ front, item.IsString) (h : ¬ found.IsString) :
      Mismatch (.array (front ++ found :: back)) .sequence (.wrongKind found .string)

end Toml.Value

/-- **The entry can be set**: its key is the name of a field that takes its value. -/
def Fits (entry : String × Toml.Value) : Prop :=
  ∃ field : Field, field.name = entry.1 ∧ entry.2.HasKind field.kind

/-- **What is wrong with an entry**: no field has its key as name, or the field does not take its
value. -/
inductive Offence : String × Toml.Value → SchemaError → Prop where
  | unknown {key : String} {value : Toml.Value} (h : ∀ field : Field, field.name ≠ key) :
      Offence (key, value) (.unknownField key)
  | kind {field : Field} {key : String} {value : Toml.Value} {error : SchemaError}
      (hname : field.name = key) (h : value.Mismatch field.kind error) : Offence (key, value) error

/-! ## Values -/

namespace Toml.Value

theorem forall_isString_iff {items : List Toml.Value} :
    (∀ item ∈ items, item.IsString) ↔ ∃ texts : List String, texts.map .string = items :=
  (Set.ext_iff.mp (Set.range_list_map Toml.Value.string) items).symm

theorem exists_asString_iff {value : Toml.Value} :
    (∃ text, value.asString = .ok text) ↔ value.IsString :=
  exists_congr fun _ => Assignment.asString_eq_ok_iff

theorem asString_eq_error_iff {value : Toml.Value} {error : SchemaError} :
    value.asString = .error error ↔ value.Mismatch .string error := by
  constructor
  · intro h
    have hnone : ¬ value.IsString := by
      rintro ⟨text, rfl⟩
      cases h
    cases value with
    | string text => cases h
    | _ =>
      cases h
      exact .string hnone
  · rintro ⟨hnone⟩
    cases value with
    | string text => exact absurd ⟨text, rfl⟩ hnone
    | _ => rfl

theorem asBoolean_eq_error_iff {value : Toml.Value} {error : SchemaError} :
    value.asBoolean = .error error ↔ value.Mismatch .boolean error := by
  constructor
  · intro h
    cases value with
    | boolean flag => cases h
    | _ =>
      cases h
      exact .boolean fun _ => Toml.Value.noConfusion
  · rintro (_ | hnone)
    cases value with
    | boolean flag => exact absurd rfl (hnone flag)
    | _ => rfl

end Toml.Value

/-! ## The first failure -/

section

variable {ε α β : Type}

theorem map_eq_error_iff {f : α → β} {outcome : Except ε α} {error : ε} :
    f <$> outcome = .error error ↔ outcome = .error error := by
  cases outcome with
  | error other => exact ⟨fun h => congrArg Except.error (Except.error.inj h), fun h => h ▸ rfl⟩
  | ok value =>
    constructor
    · intro h
      cases h
    · intro h
      cases h

theorem mapM_cons_eq_error_iff {f : α → Except ε β} {x : α} {xs : List α} {error : ε} :
    (x :: xs).mapM f = .error error ↔
      f x = .error error ∨ (∃ y, f x = .ok y) ∧ xs.mapM f = .error error := by
  rw [List.mapM_cons]
  cases f x with
  | error other =>
    constructor
    · exact fun h => .inl (congrArg Except.error (Except.error.inj h))
    · rintro (h | ⟨⟨_, h⟩, -⟩)
      · exact congrArg Except.error (Except.error.inj h)
      · cases h
  | ok y =>
    constructor
    · intro h
      cases hxs : xs.mapM f with
      | error other =>
        rw [hxs] at h
        exact .inr ⟨⟨y, rfl⟩, h⟩
      | ok others =>
        rw [hxs] at h
        cases h
    · rintro (h | ⟨-, h⟩)
      · cases h
      · rw [h]
        rfl

/-- **Going over a list ends in the first failure**, whatever comes after it. -/
theorem mapM_eq_error_iff {f : α → Except ε β} {xs : List α} {error : ε} :
    xs.mapM f = .error error ↔ ∃ front x back, xs = front ++ x :: back ∧
      (∀ y ∈ front, ∃ result, f y = .ok result) ∧ f x = .error error := by
  induction xs with
  | nil =>
    constructor
    · intro h
      cases h
    · rintro ⟨front, x, back, h, -⟩
      exact absurd h (by simp)
  | cons x xs ih =>
    rw [mapM_cons_eq_error_iff]
    constructor
    · rintro (hx | ⟨hx, hxs⟩)
      · exact ⟨[], x, xs, rfl, List.forall_mem_nil _, hx⟩
      · obtain ⟨front, y, back, rfl, hfront, hy⟩ := ih.mp hxs
        exact ⟨x :: front, y, back, rfl, List.forall_mem_cons.mpr ⟨hx, hfront⟩, hy⟩
    · rintro ⟨front, y, back, h, hfront, hy⟩
      cases front with
      | nil =>
        obtain ⟨rfl, rfl⟩ := List.cons.inj h
        exact .inl hy
      | cons z front =>
        obtain ⟨rfl, rfl⟩ := List.cons.inj h
        obtain ⟨hx, hothers⟩ := List.forall_mem_cons.mp hfront
        exact .inr ⟨hx, ih.mpr ⟨front, y, back, rfl, hothers, hy⟩⟩

end

theorem Toml.Value.asStrings_eq_error_iff {value : Toml.Value} {error : SchemaError} :
    value.asStrings = .error error ↔ value.Mismatch .sequence error := by
  cases value with
  | array items =>
    rw [Toml.Value.asStrings, mapM_eq_error_iff]
    simp only [exists_asString_iff, asString_eq_error_iff]
    constructor
    · rintro ⟨front, found, back, rfl, hfront, ⟨hnone⟩⟩
      exact .item hfront hnone
    · intro h
      cases h with
      | sequence hnone => exact absurd rfl (hnone items)
      | item hfront hnone => exact ⟨_, _, _, rfl, hfront, .string hnone⟩
  | _ =>
    constructor
    · intro h
      cases h
      exact .sequence fun _ => Toml.Value.noConfusion
    · intro h
      cases h
      rfl

/-! ## Entries -/

theorem Toml.Value.hasKind_sequence_iff {value : Toml.Value} :
    value.HasKind .sequence ↔ ∃ texts : List String, .array (texts.map .string) = value := by
  constructor
  · intro h
    cases h with
    | sequence h =>
      obtain ⟨texts, rfl⟩ := forall_isString_iff.mp h
      exact ⟨texts, rfl⟩
  · rintro ⟨texts, rfl⟩
    exact .sequence (forall_isString_iff.mpr ⟨texts, rfl⟩)

/-- **A value that a field takes** is the value of an assignment to it. -/
theorem Toml.Value.hasKind_iff {field : Field} {value : Toml.Value} :
    value.HasKind field.kind ↔
      ∃ assignment : Assignment, assignment.field = field ∧ assignment.toml = value := by
  constructor
  · intro h
    cases field with
    | commitNumber =>
      cases h with
      | string text => exact ⟨.commitNumber text, rfl, rfl⟩
    | version =>
      cases h with
      | string text => exact ⟨.version text, rfl, rfl⟩
    | useMdfileAsMainpage =>
      cases h with
      | boolean flag => exact ⟨.useMdfileAsMainpage flag, rfl, rfl⟩
    | input =>
      obtain ⟨paths, rfl⟩ := hasKind_sequence_iff.mp h
      exact ⟨.input paths, rfl, rfl⟩
    | examplePath =>
      obtain ⟨paths, rfl⟩ := hasKind_sequence_iff.mp h
      exact ⟨.examplePath paths, rfl, rfl⟩
    | stripFromPath =>
      obtain ⟨paths, rfl⟩ := hasKind_sequence_iff.mp h
      exact ⟨.stripFromPath paths, rfl, rfl⟩
  · rintro ⟨assignment, rfl, rfl⟩
    cases assignment with
    | commitNumber text => exact .string text
    | version text => exact .string text
    | useMdfileAsMainpage flag => exact .boolean flag
    | input paths => exact hasKind_sequence_iff.mpr ⟨paths, rfl⟩
    | examplePath paths => exact hasKind_sequence_iff.mpr ⟨paths, rfl⟩
    | stripFromPath paths => exact hasKind_sequence_iff.mpr ⟨paths, rfl⟩

theorem fits_iff {entry : String × Toml.Value} :
    Fits entry ↔ ∃ assignment : Assignment, assignment.entry = entry := by
  obtain ⟨key, value⟩ := entry
  simp only [Fits, Toml.Value.hasKind_iff, Assignment.entry, Prod.mk.injEq]
  constructor
  · rintro ⟨_, rfl, assignment, rfl, rfl⟩
    exact ⟨assignment, rfl, rfl⟩
  · rintro ⟨assignment, rfl, rfl⟩
    exact ⟨_, rfl, assignment, rfl, rfl⟩

theorem assignment_eq_error_iff {field : Field} {value : Toml.Value} {error : SchemaError} :
    field.assignment value = .error error ↔ value.Mismatch field.kind error := by
  cases field with
  | commitNumber => exact map_eq_error_iff.trans Toml.Value.asString_eq_error_iff
  | version => exact map_eq_error_iff.trans Toml.Value.asString_eq_error_iff
  | useMdfileAsMainpage => exact map_eq_error_iff.trans Toml.Value.asBoolean_eq_error_iff
  | input => exact map_eq_error_iff.trans Toml.Value.asStrings_eq_error_iff
  | examplePath => exact map_eq_error_iff.trans Toml.Value.asStrings_eq_error_iff
  | stripFromPath => exact map_eq_error_iff.trans Toml.Value.asStrings_eq_error_iff

/-- **What is told of an entry is its offence.** -/
theorem ofEntry_eq_error_iff {entry : String × Toml.Value} {error : SchemaError} :
    Assignment.ofEntry entry = .error error ↔ Offence entry error := by
  obtain ⟨key, value⟩ := entry
  unfold Assignment.ofEntry
  cases hfield : Field.ofName? key with
  | none =>
    have hnone : ∀ field : Field, field.name ≠ key := by
      rintro field rfl
      rw [Field.ofName?_name] at hfield
      cases hfield
    constructor
    · intro h
      cases h
      exact .unknown hnone
    · intro h
      cases h with
      | unknown _ => rfl
      | kind hname _ => exact absurd hname (hnone _)
  | some field =>
    obtain rfl := Field.name_of_ofName? hfield
    show field.assignment value = _ ↔ _
    rw [assignment_eq_error_iff]
    constructor
    · exact .kind rfl
    · intro h
      cases h with
      | unknown hnone => exact absurd rfl (hnone field)
      | kind hname h => exact Field.name_injective hname ▸ h

/-! ## Documents -/

namespace Settings

theorem ofEntries_eq_ok_iff {entries : Toml.Table} {settings : Settings} :
    ofEntries entries = .ok settings ↔ ∃ assignments : List Assignment,
      assignments.map Assignment.entry = entries ∧ assignments.foldl assign empty = settings := by
  simp only [← Assignment.mapM_ofEntry_eq_ok_iff]
  exact map_eq_ok_iff

/-- **Entries are settings exactly when all of them fit.** -/
theorem exists_ofEntries_iff {entries : Toml.Table} :
    (∃ settings, ofEntries entries = .ok settings) ↔ ∀ entry ∈ entries, Fits entry := by
  have hrange : (∃ assignments : List Assignment, assignments.map Assignment.entry = entries) ↔
      ∀ entry ∈ entries, ∃ assignment : Assignment, assignment.entry = entry :=
    Set.ext_iff.mp (Set.range_list_map Assignment.entry) entries
  simp only [fits_iff, ← hrange, ofEntries_eq_ok_iff]
  constructor
  · rintro ⟨_, assignments, hentries, -⟩
    exact ⟨assignments, hentries⟩
  · rintro ⟨assignments, hentries⟩
    exact ⟨_, assignments, hentries, rfl⟩

/-- **The first entry that does not fit is what is told of**, whatever comes after it. -/
theorem ofEntries_eq_error_iff {entries : Toml.Table} {error : SchemaError} :
    ofEntries entries = .error error ↔ ∃ front entry back, entries = front ++ entry :: back ∧
      (∀ other ∈ front, Fits other) ∧ Offence entry error := by
  have hmap : ofEntries entries = .error error ↔
      entries.mapM Assignment.ofEntry = .error error := map_eq_error_iff
  rw [hmap, mapM_eq_error_iff]
  simp only [fits_iff, Assignment.ofEntry_eq_ok_iff, ofEntry_eq_error_iff]

/-- **A field is given what its entry says**, when no key is there twice. -/
theorem given_of_ofEntries {entries : Toml.Table} {settings : Settings}
    (h : ofEntries entries = .ok settings) (hkeys : entries.keys.Nodup) {field : Field}
    {assignment : Assignment} :
    settings.given field = some assignment ↔
      assignment.field = field ∧ (field.name, assignment.toml) ∈ entries := by
  obtain ⟨assignments, rfl, rfl⟩ := ofEntries_eq_ok_iff.mp h
  have hentry : ∀ {other : Assignment},
      other.entry ∈ assignments.map Assignment.entry ↔ other ∈ assignments :=
    List.mem_map_of_injective Assignment.entry_injective
  rw [given_foldl_assign, given_empty, Option.or_none]
  constructor
  · intro hfind
    obtain rfl : assignment.field = field := by simpa using List.find?_some hfind
    exact ⟨rfl, hentry.mpr (List.mem_reverse.mp (List.mem_of_find?_eq_some hfind))⟩
  · rintro ⟨rfl, hmem⟩
    have hassignment := hentry.mp hmem
    cases hfind : assignments.reverse.find? (·.field = assignment.field) with
    | none =>
      have hother := List.find?_eq_none.mp hfind assignment (List.mem_reverse.mpr hassignment)
      exact absurd (decide_eq_true rfl) hother
    | some found =>
      have hfield : found.field = assignment.field := by simpa using List.find?_some hfind
      have hfound := List.mem_reverse.mp (List.mem_of_find?_eq_some hfind)
      -- both are entries with the same key, and no key is there twice
      have hsame := List.inj_on_of_nodup_map hkeys (hentry.mpr hfound) (hentry.mpr hassignment)
        (congrArg Field.name hfield)
      exact congrArg some (Assignment.entry_injective hsame)

/-- **A field is unset when no entry has its name.** -/
theorem given_eq_none_iff {entries : Toml.Table} {settings : Settings}
    (h : ofEntries entries = .ok settings) (hkeys : entries.keys.Nodup) {field : Field} :
    settings.given field = none ↔ field.name ∉ entries.keys := by
  have hfits := exists_ofEntries_iff.mp ⟨settings, h⟩
  rw [Option.eq_none_iff_forall_ne_some]
  constructor
  · intro hnone hkey
    obtain ⟨entry, hentry, hname⟩ := List.mem_map.mp hkey
    obtain ⟨assignment, rfl⟩ := fits_iff.mp (hfits entry hentry)
    obtain rfl := Field.name_injective hname
    exact hnone assignment ((given_of_ofEntries h hkeys).mpr ⟨rfl, hentry⟩)
  · intro hkey assignment hgiven
    obtain ⟨-, hentry⟩ := (given_of_ofEntries h hkeys).mp hgiven
    exact hkey (List.mem_map_of_mem hentry)

/-- **Entries in another order are the same settings.** -/
theorem ofEntries_perm {entries others : Toml.Table} {settings : Settings}
    (h : ofEntries entries = .ok settings) (hkeys : entries.keys.Nodup)
    (hperm : others.Perm entries) : ofEntries others = .ok settings := by
  have hfits := exists_ofEntries_iff.mp ⟨settings, h⟩
  obtain ⟨same, hsame⟩ := exists_ofEntries_iff.mpr fun entry hmem =>
    hfits entry (hperm.mem_iff.mp hmem)
  have hothers : others.keys.Nodup := (hperm.map Prod.fst).nodup_iff.mpr hkeys
  have hgiven : ∀ field, same.given field = settings.given field := by
    intro field
    refine Option.ext fun assignment => ?_
    rw [given_of_ofEntries hsame hothers, given_of_ofEntries h hkeys, hperm.mem_iff]
  rw [hsame, eq_of_given hgiven]

section

variable {text : String} {entries : Toml.Table}

theorem ofToml_eq_ok_iff (h : Toml.parse text = some entries) {settings : Settings} :
    ofToml text = .ok settings ↔ ofEntries entries = .ok settings := by
  rw [ofToml, h]
  show (ofEntries entries).mapError SettingsError.schema = _ ↔ _
  cases ofEntries entries with
  | error error =>
    constructor
    · intro heq
      cases heq
    · intro heq
      cases heq
  | ok found =>
    constructor
    · exact fun heq => congrArg Except.ok (Except.ok.inj heq)
    · exact fun heq => congrArg Except.ok (Except.ok.inj heq)

theorem ofToml_eq_error_iff (h : Toml.parse text = some entries) {error : SettingsError} :
    ofToml text = .error error ↔
      ∃ found, ofEntries entries = .error found ∧ error = .schema found := by
  rw [ofToml, h]
  show (ofEntries entries).mapError SettingsError.schema = _ ↔ _
  cases ofEntries entries with
  | ok settings =>
    constructor
    · intro heq
      cases heq
    · rintro ⟨found, heq, -⟩
      cases heq
  | error found =>
    constructor
    · exact fun heq => ⟨found, rfl, (Except.error.inj heq).symm⟩
    · rintro ⟨_, heq, rfl⟩
      cases heq
      rfl

end

/-- **What a document must be to be settings.** Its keys are distinct. It is settings exactly when
every entry has the name of a field as its key and a value that the field takes. A field is then set
exactly when it has an entry, to what the entry says, and the entries in any other order are the
same settings. Otherwise the offence of the first entry that has one is told, of an array with an
item that is no text the first such item, whatever comes after it. -/
theorem ofToml_acceptance {text : String} {entries : Toml.Table}
    (h : Toml.parse text = some entries) :
    entries.keys.Nodup ∧
    ((∃ settings, ofToml text = .ok settings) ↔ ∀ entry ∈ entries, Fits entry) ∧
    (∀ settings, ofToml text = .ok settings →
      (∀ field assignment, settings.given field = some assignment ↔
        assignment.field = field ∧ (field.name, assignment.toml) ∈ entries) ∧
      (∀ field, settings.given field = none ↔ field.name ∉ entries.keys) ∧
      ∀ others, others.Perm entries → ofEntries others = .ok settings ∧
        ∀ other, Toml.parse other = some others → ofToml other = .ok settings) ∧
    ∀ error, ofToml text = .error error ↔
      ∃ front entry back found, entries = front ++ entry :: back ∧
        (∀ other ∈ front, Fits other) ∧ Offence entry found ∧ error = .schema found := by
  have hkeys := Toml.nodup_keys_of_parse h
  refine ⟨hkeys, ?_, fun settings hsettings => ?_, fun error => ?_⟩
  · simp only [ofToml_eq_ok_iff h, exists_ofEntries_iff]
  · rw [ofToml_eq_ok_iff h] at hsettings
    refine ⟨fun field assignment => given_of_ofEntries hsettings hkeys,
      fun field => given_eq_none_iff hsettings hkeys, fun others hperm => ?_⟩
    have hsame := ofEntries_perm hsettings hkeys hperm
    exact ⟨hsame, fun other hother => (ofToml_eq_ok_iff hother).mpr hsame⟩
  · rw [ofToml_eq_error_iff h]
    constructor
    · rintro ⟨found, hfound, rfl⟩
      obtain ⟨front, entry, back, hentries, hfront, hentry⟩ := ofEntries_eq_error_iff.mp hfound
      exact ⟨front, entry, back, found, hentries, hfront, hentry, rfl⟩
    · rintro ⟨front, entry, back, found, hentries, hfront, hentry, rfl⟩
      exact ⟨found, ofEntries_eq_error_iff.mpr ⟨front, entry, back, hentries, hfront, hentry⟩, rfl⟩

/-- The first item that is no text is told of, whatever follows it in its list and behind it. With
that list mended and the unknown key gone, the entries are settings in either order. -/
theorem ofToml_acceptance_in_order :
    ofToml "version = \"1\"\ninput = [\"a\", 1, [2]]\nfoo = true" =
        .error (.schema (.wrongKind (.integer 1) .string)) ∧
      ofToml "version = \"1\"\ninput = [\"a\"]" =
        .ok { version := some "1", input := some ["a"] } ∧
      ofToml "input = [\"a\"]\nversion = \"1\"" =
        .ok { version := some "1", input := some ["a"] } := by
  have hwrong : Toml.parse "version = \"1\"\ninput = [\"a\", 1, [2]]\nfoo = true" =
      some [("version", .string "1"), ("input", .array [.string "a", .integer 1,
        .array [.integer 2]]), ("foo", .boolean true)] := by cbv
  have hright : Toml.parse "version = \"1\"\ninput = [\"a\"]" =
      some [("version", .string "1"), ("input", .array [.string "a"])] := by cbv
  have hswapped : Toml.parse "input = [\"a\"]\nversion = \"1\"" =
      some [("input", .array [.string "a"]), ("version", .string "1")] := by cbv
  have hversion : Fits ("version", .string "1") := ⟨.version, rfl, .string "1"⟩
  have hname : Field.input.name = "input" := rfl
  have hinteger : ¬ (Toml.Value.integer 1).IsString := by
    rintro ⟨text, h⟩
    cases h
  have hitem : (Toml.Value.array ([.string "a"] ++ .integer 1 :: [.array [.integer 2]])).Mismatch
      .sequence (.wrongKind (.integer 1) .string) :=
    .item (List.forall_mem_singleton.mpr ⟨"a", rfl⟩) hinteger
  have hsettings : ofToml "version = \"1\"\ninput = [\"a\"]" =
      .ok { version := some "1", input := some ["a"] } := (ofToml_eq_ok_iff hright).mpr rfl
  refine ⟨((ofToml_acceptance hwrong).2.2.2 _).mpr ⟨[("version", .string "1")], _,
    [("foo", .boolean true)], _, rfl, List.forall_mem_singleton.mpr hversion, .kind hname hitem,
    rfl⟩, hsettings, ?_⟩
  have horder := ((ofToml_acceptance hright).2.2.1 _ hsettings).2.2 _ (.swap _ _ [])
  exact horder.2 _ hswapped

end Settings

end Doxyfile
