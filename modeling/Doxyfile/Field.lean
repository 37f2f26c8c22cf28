/-!
# Fields

A template can ask for six fields. `Field.names` lists their names, in the order in which they are
told to a user, and `Field.ofName?` finds a field by its name. The list and the lookup are written
down apart; that they know the same names is `Field.ofName?_isSome_iff`.

An `Assignment` is a field together with a value of the kind it takes: a text, a flag or a list of
paths.
-/

namespace Doxyfile

/-- What a template can ask for. -/
inductive Field where
  | commitNumber
  | version
  | useMdfileAsMainpage
  | input
  | examplePath
  | stripFromPath
deriving DecidableEq, Repr

/-- The name of the field in templates and settings. -/
def Field.name : Field → String
  | .commitNumber => "commit_number"
  | .version => "version"
  | .useMdfileAsMainpage => "use_mdfile_as_mainpage"
  | .input => "input"
  | .examplePath => "example_path"
  | .stripFromPath => "strip_from_path"

/-- Every field, in the order in which they are listed. -/
def Field.all : List Field :=
  [.commitNumber, .version, .useMdfileAsMainpage, .input, .examplePath, .stripFromPath]

/-- The names of all fields in order. -/
def Field.names : List String :=
  [ "commit_number"
  , "version"
  , "use_mdfile_as_mainpage"
  , "input"
  , "example_path"
  , "strip_from_path" ]

/-- The field of a name, if there is one. -/
def Field.ofName? : String → Option Field
  | "commit_number" => some .commitNumber
  | "version" => some .version
  | "use_mdfile_as_mainpage" => some .useMdfileAsMainpage
  | "input" => some .input
  | "example_path" => some .examplePath
  | "strip_from_path" => some .stripFromPath
  | _ => none

/-- A value for one field. -/
inductive Assignment where
  | commitNumber (text : String)
  | version (text : String)
  | useMdfileAsMainpage (flag : Bool)
  | input (paths : List String)
  | examplePath (paths : List String)
  | stripFromPath (paths : List String)
deriving DecidableEq, Repr

/-- The field that an assignment is for. -/
def Assignment.field : Assignment → Field
  | .commitNumber _ => .commitNumber
  | .version _ => .version
  | .useMdfileAsMainpage _ => .useMdfileAsMainpage
  | .input _ => .input
  | .examplePath _ => .examplePath
  | .stripFromPath _ => .stripFromPath

/-! ## Names and fields -/

/-- No field is left out. -/
theorem Field.mem_all (field : Field) : field ∈ Field.all := by
  cases field <;> decide

/-- The listed names are those of the fields. -/
theorem Field.names_eq_map : Field.names = Field.all.map Field.name := rfl

/-- A field is found by its name. -/
theorem Field.ofName?_name (field : Field) : Field.ofName? field.name = some field := by
  cases field <;> rfl

/-- What is found under a name has that name. -/
theorem Field.name_of_ofName? {name : String} {field : Field}
    (h : Field.ofName? name = some field) : field.name = name := by
  unfold ofName? at h
  split at h <;> cases h <;> rfl

/-- **The list and the lookup know the same names**: a field is found under a name exactly when the
name is listed. -/
theorem Field.ofName?_isSome_iff {name : String} :
    (Field.ofName? name).isSome = true ↔ name ∈ Field.names := by
  rw [Option.isSome_iff_exists, names_eq_map, List.mem_map]
  constructor
  · rintro ⟨field, h⟩
    exact ⟨field, mem_all field, name_of_ofName? h⟩
  · rintro ⟨field, -, rfl⟩
    exact ⟨field, ofName?_name field⟩

end Doxyfile
