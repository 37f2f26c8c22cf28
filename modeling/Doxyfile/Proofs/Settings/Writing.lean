import Doxyfile.Proofs.Settings.Entries
import Doxyfile.Proofs.Toml.Writing

/-!
# Settings written down and read back

The settings that are set can be written as the lines of a document, one for each field, in any
order. What is read from that document is those settings (`Settings.ofToml_document`), whatever
characters their texts have.

The document gives the entries of its lines, an entry gives the assignment it was made from, and
assignments to distinct fields can be made in any order (`Settings.given_foldl_assign`).
-/

namespace Doxyfile

/-! ## Lines -/

/-- The value of an assignment as it is written. -/
def Assignment.tomlText (style : Toml.Style) : Assignment → List Char
  | .commitNumber text => style.quoted text
  | .version text => style.quoted text
  | .useMdfileAsMainpage flag => Toml.Style.flag flag
  | .input paths => style.array paths
  | .examplePath paths => style.array paths
  | .stripFromPath paths => style.array paths

theorem Assignment.written (style : Toml.Style) (assignment : Assignment) :
    Toml.Written (assignment.tomlText style) assignment.toml := by
  cases assignment with
  | commitNumber text => exact style.written_quoted text
  | version text => exact style.written_quoted text
  | useMdfileAsMainpage flag => exact Toml.Style.written_flag flag
  | input paths => exact style.written_array paths
  | examplePath paths => exact style.written_array paths
  | stripFromPath paths => exact style.written_array paths

theorem Field.toList_name_ne_nil (field : Field) : field.name.toList ≠ [] := by
  cases field <;> decide

/-- The name of a field needs no quotes. -/
theorem Field.isKeyChar_of_mem_name (field : Field) :
    ∀ c ∈ field.name.toList, Toml.isKeyChar c = true := by
  have hall : field.name.toList.all Toml.isKeyChar = true := by cases field <;> decide
  exact List.all_eq_true.mp hall

/-- **An assignment as a line of a document**: the name of its field, and its value. -/
def Assignment.line (style : Toml.Style) (assignment : Assignment) : Toml.Line where
  key := assignment.field.name
  text := assignment.tomlText style
  value := assignment.toml
  key_ne_nil := assignment.field.toList_name_ne_nil
  isKeyChar_of_mem := assignment.field.isKeyChar_of_mem_name
  written := assignment.written style

namespace Settings

/-- The assignments that make the settings, in the order of the fields. -/
def assignments (settings : Settings) : List Assignment :=
  Field.all.filterMap settings.given

/-- Assignments as a document, one line for each. -/
def document (style : Toml.Style) (assignments : List Assignment) : String :=
  String.ofList (style.document (assignments.map fun assignment => (assignment.line style).source))

theorem field_of_given {settings : Settings} {field : Field} {assignment : Assignment}
    (h : settings.given field = some assignment) : assignment.field = field := by
  cases field with
  | commitNumber => obtain ⟨_, -, rfl⟩ := Option.map_eq_some_iff.mp h; rfl
  | version => obtain ⟨_, -, rfl⟩ := Option.map_eq_some_iff.mp h; rfl
  | useMdfileAsMainpage => obtain ⟨_, -, rfl⟩ := Option.map_eq_some_iff.mp h; rfl
  | input => obtain ⟨_, -, rfl⟩ := Option.map_eq_some_iff.mp h; rfl
  | examplePath => obtain ⟨_, -, rfl⟩ := Option.map_eq_some_iff.mp h; rfl
  | stripFromPath => obtain ⟨_, -, rfl⟩ := Option.map_eq_some_iff.mp h; rfl

/-- **The assignments of settings are what the settings give.** -/
theorem mem_assignments {settings : Settings} {assignment : Assignment} :
    assignment ∈ settings.assignments ↔
      settings.given assignment.field = some assignment := by
  rw [assignments, List.mem_filterMap]
  constructor
  · rintro ⟨field, -, hgiven⟩
    rwa [field_of_given hgiven]
  · exact fun hgiven => ⟨_, Field.mem_all _, hgiven⟩

/-- **No two assignments are to the same field.** -/
theorem nodup_names (settings : Settings) :
    (settings.assignments.map (·.field.name)).Nodup := by
  have hsublist : ∀ fields : List Field,
      ((fields.filterMap settings.given).map (·.field.name)).Sublist (fields.map Field.name) := by
    intro fields
    induction fields with
    | nil => exact List.Sublist.slnil
    | cons field fields ih =>
      cases hgiven : settings.given field with
      | none =>
        rw [List.filterMap_cons_none hgiven, List.map_cons]
        exact ih.cons _
      | some assignment =>
        rw [List.filterMap_cons_some hgiven, List.map_cons, List.map_cons, field_of_given hgiven]
        exact ih.cons_cons _
  have hnames : Field.names.Nodup := by decide
  exact hnames.sublist (hsublist Field.all)

/-- **The last assignment to a field is what it is given.** -/
theorem given_foldl_assign (settings : Settings) (assignments : List Assignment) (field : Field) :
    (assignments.foldl assign settings).given field =
      (assignments.reverse.find? (·.field = field)).or (settings.given field) := by
  induction assignments generalizing settings with
  | nil => rfl
  | cons assignment assignments ih =>
    rw [List.foldl_cons, ih, given_assign, List.reverse_cons, List.find?_append, Option.or_assoc]
    congr 1
    by_cases h : assignment.field = field
    · rw [if_pos h, List.find?_cons_of_pos (by simpa using h), Option.some_or]
    · rw [if_neg h, List.find?_cons_of_neg (by simpa using h)]
      rfl

/-- **Settings are made by their assignments**, in any order. -/
theorem foldl_assign_empty {settings : Settings} {assignments : List Assignment}
    (h : assignments.Perm settings.assignments) : assignments.foldl assign empty = settings := by
  apply eq_of_given
  intro field
  rw [given_foldl_assign, given_empty, Option.or_none]
  have hmem : ∀ assignment, assignment ∈ assignments.reverse ↔
      settings.given assignment.field = some assignment := fun assignment => by
    rw [List.mem_reverse, h.mem_iff, mem_assignments]
  cases hfind : assignments.reverse.find? (·.field = field) with
  | some found =>
    have hfound := (hmem found).mp (List.mem_of_find?_eq_some hfind)
    have hfield : found.field = field := by simpa using List.find?_some hfind
    rw [← hfound, hfield]
  | none =>
    rw [List.find?_eq_none] at hfind
    refine (Option.eq_none_iff_forall_ne_some.mpr fun assignment hgiven => ?_).symm
    have hfield := field_of_given hgiven
    refine hfind assignment ((hmem assignment).mpr (by rwa [hfield])) (by simpa using hfield)

/-- **Settings are read back from the document of their assignments**, written in any order. A field
without a line stays unset, and one with a line is set to what the line says, be it the empty text
or the empty list. -/
theorem ofToml_document (style : Toml.Style) {settings : Settings} {assignments : List Assignment}
    (h : assignments.Perm settings.assignments) :
    ofToml (document style assignments) = .ok settings ∧
      ∀ field assignment, settings.given field = some assignment ↔
        assignment ∈ assignments ∧ assignment.field = field := by
  constructor
  · have hkeys : ((assignments.map (·.line style)).map Toml.Line.key).Nodup := by
      rw [List.map_map]
      exact (h.map _).nodup_iff.mpr settings.nodup_names
    have hparse := Toml.parse_document style hkeys
    rw [List.map_map, List.map_map] at hparse
    have hentries : Toml.parse (document style assignments) =
        some (assignments.map Assignment.entry) := hparse
    rw [ofToml, hentries]
    show (ofEntries (assignments.map Assignment.entry)).mapError SettingsError.schema = _
    rw [ofEntries, Assignment.mapM_ofEntry_eq_ok_iff.mpr rfl]
    show Except.ok (assignments.foldl assign empty) = _
    rw [foldl_assign_empty h]
  · intro field assignment
    rw [h.mem_iff, mem_assignments]
    constructor
    · intro hgiven
      rw [field_of_given hgiven]
      exact ⟨hgiven, rfl⟩
    · rintro ⟨hgiven, rfl⟩
      exact hgiven

/-- Five of the six fields, out of order: a quote, a backslash, controls and characters past ASCII
in a text and an item, an empty text, an empty list and an empty item. -/
theorem ofToml_document_of_five_fields :
    ofToml (document ⟨true, 1, false⟩
        [.examplePath ["a\nb", "", "\x7f]"], .version "", .input [],
          .commitNumber "\"\\\x00é\u2028😀", .useMdfileAsMainpage false]) =
      .ok ⟨some "\"\\\x00é\u2028😀", some "", some false, some [], some ["a\nb", "", "\x7f]"],
        none⟩ ∧
      ∀ field assignment,
        given ⟨some "\"\\\x00é\u2028😀", some "", some false, some [],
          some ["a\nb", "", "\x7f]"], none⟩ field = some assignment ↔
        assignment ∈ [.examplePath ["a\nb", "", "\x7f]"], .version "", .input [],
          .commitNumber "\"\\\x00é\u2028😀", .useMdfileAsMainpage false] ∧
            assignment.field = field :=
  ofToml_document ⟨true, 1, false⟩ (by decide +kernel)

/-- The document of these settings, as it is written. -/
example :
    document ⟨true, 1, false⟩
        [.examplePath ["a\nb", "", "\x7f]"], .version "", .input [],
          .commitNumber "\"\\\x00é\u2028😀", .useMdfileAsMainpage false] =
      "example_path = [\"a\\u000Ab\", \"\", \"\\u007F]\"]\nversion = \"\"\ninput = []\n" ++
        "commit_number = \"\\\"\\\\\\u0000é\u2028😀\"\nuse_mdfile_as_mainpage = false" := by
  decide +kernel

end Settings

end Doxyfile
