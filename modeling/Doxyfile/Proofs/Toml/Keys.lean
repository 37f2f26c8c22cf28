import Doxyfile.Toml.Parse

/-!
# The keys of a document are distinct

Whatever a statement does to the table of a document, it adds an entry under a new key, replaces the
node of a key in its place, or moves a key behind the others (`Entries.Changed`). None of these
makes a key stand twice, so no document has a key twice (`nodup_keys_of_parse`).
-/

namespace Doxyfile.Toml

namespace Entries

/-- The keys of a table that is being built, in order. -/
def keys (entries : Entries) : List String :=
  entries.map Prod.fst

/-- **What can become of a table** when something is added to it or to a table in it. -/
inductive Changed (entries : Entries) : Entries → Prop where
  | added {key : String} (node : Node) (h : entries.lookup key = none) :
      Changed entries (entries ++ [(key, node)])
  | replaced (key : String) (node : Node) : Changed entries (replace key node entries)
  | moved (key : String) (node : Node) : Changed entries (erase key entries ++ [(key, node)])

/-! ## Keys of a changed table -/

theorem keys_replace (key : String) (node : Node) (entries : Entries) :
    keys (replace key node entries) = keys entries := by
  fun_induction replace key node entries with
  | case1 => rfl
  | case2 old entries => rfl
  | case3 other old entries hne ih => exact congrArg (other :: ·) ih

theorem not_mem_keys {key : String} {entries : Entries} (h : entries.lookup key = none) :
    key ∉ keys entries := by
  rw [List.lookup_eq_none_iff] at h
  intro hmem
  obtain ⟨entry, hentry, rfl⟩ := List.mem_map.mp hmem
  exact absurd (h entry hentry) (by simp)

theorem not_mem_keys_erase (key : String) (entries : Entries) : key ∉ keys (erase key entries) := by
  intro hmem
  obtain ⟨entry, hentry, rfl⟩ := List.mem_map.mp hmem
  exact absurd (List.mem_filter.mp hentry).2 (by simp)

theorem nodup_keys_concat {key : String} {entries : Entries} (h : (keys entries).Nodup)
    (hkey : key ∉ keys entries) (node : Node) : (keys (entries ++ [(key, node)])).Nodup := by
  rw [keys, List.map_append, List.nodup_append]
  refine ⟨h, by simp, fun other hother last hlast heq => hkey ?_⟩
  obtain rfl : last = key := List.mem_singleton.mp hlast
  exact heq ▸ hother

/-- **A change keeps the keys distinct.** -/
theorem Changed.nodup_keys {entries changed : Entries} (h : Changed entries changed)
    (hkeys : (keys entries).Nodup) : (keys changed).Nodup := by
  cases h with
  | added node hnone => exact nodup_keys_concat hkeys (not_mem_keys hnone) node
  | replaced key node => rwa [keys_replace]
  | moved key node =>
    have hfewer : (keys (erase key entries)).Sublist (keys entries) := List.filter_sublist.map _
    exact nodup_keys_concat (hkeys.sublist hfewer) (not_mem_keys_erase key entries) node

/-! ## The operations -/

theorem assign_changed {value : Value} {path : List String} {entries changed : Entries}
    (h : assign value path entries = some changed) : Changed entries changed := by
  fun_cases assign value path entries with
  | case1 => cases h
  | case2 key entries hnone =>
    simp only [assign, hnone, Option.some.injEq] at h
    exact h ▸ .added _ hnone
  | case3 key entries node hsome => simp only [assign, hsome, reduceCtorEq] at h
  | case4 key path entries hpath hnone =>
    simp only [assign, hnone] at h
    obtain ⟨inner, -, h⟩ := Option.bind_eq_some_iff.mp h
    exact Option.some.inj h ▸ .added _ hnone
  | case5 key path entries hpath leaf hsome => simp only [assign, hsome, reduceCtorEq] at h
  | case6 key path entries hpath origin inner hsome hclosed =>
    simp only [assign, hsome, if_pos hclosed, reduceCtorEq] at h
  | case7 key path entries hpath origin inner hsome hopen =>
    simp only [assign, hsome, if_neg hopen] at h
    obtain ⟨inner, -, h⟩ := Option.bind_eq_some_iff.mp h
    exact Option.some.inj h ▸ .replaced key _
  | case8 key path entries hpath elements hsome hnone =>
    simp only [assign, hsome, hnone, reduceCtorEq] at h
  | case9 key path entries hpath elements hsome last hlast hshort =>
    simp only [assign, hsome, hlast, if_pos hshort, reduceCtorEq] at h
  | case10 key path entries hpath elements hsome last hlast hlong =>
    simp only [assign, hsome, hlast, if_neg hlong] at h
    obtain ⟨inner, -, h⟩ := Option.bind_eq_some_iff.mp h
    exact Option.some.inj h ▸ .replaced key _

theorem update_changed {change : Entries → Option Entries}
    (hchange : ∀ {entries changed}, change entries = some changed → Changed entries changed)
    {path : List String} {entries changed : Entries}
    (h : update change path entries = some changed) : Changed entries changed := by
  fun_cases update change path entries with
  | case1 entries => exact hchange h
  | case2 key path entries hnone =>
    simp only [update, hnone] at h
    obtain ⟨inner, -, h⟩ := Option.bind_eq_some_iff.mp h
    exact Option.some.inj h ▸ .added _ hnone
  | case3 key path entries leaf hsome => simp only [update, hsome, reduceCtorEq] at h
  | case4 key path entries origin inner hsome =>
    simp only [update, hsome] at h
    obtain ⟨inner, -, h⟩ := Option.bind_eq_some_iff.mp h
    exact Option.some.inj h ▸ .replaced key _
  | case5 key path entries elements hsome hnone =>
    simp only [update, hsome, hnone, reduceCtorEq] at h
  | case6 key path entries elements hsome last hlast =>
    simp only [update, hsome, hlast] at h
    obtain ⟨inner, -, h⟩ := Option.bind_eq_some_iff.mp h
    exact Option.some.inj h ▸ .replaced key _

theorem openTable_changed {key : String} {entries changed : Entries}
    (h : openTable key entries = some changed) : Changed entries changed := by
  unfold openTable at h
  split at h
  next hnone => exact Option.some.inj h ▸ .added _ hnone
  next inner hsome => exact Option.some.inj h ▸ .moved key _
  next => cases h

theorem openElement_changed {key : String} {entries changed : Entries}
    (h : openElement key entries = some changed) : Changed entries changed := by
  unfold openElement at h
  split at h
  next hnone => exact Option.some.inj h ▸ .added _ hnone
  next elements hsome => exact Option.some.inj h ▸ .replaced key _
  next => cases h

theorem keys_values (entries : Entries) : Table.keys (values entries) = keys entries := by
  induction entries with
  | nil => rfl
  | cons entry entries ih => exact congrArg (entry.1 :: ·) ih

end Entries

/-! ## Documents -/

/-- **A statement changes the table of the document**, be it a part of it that is meant. -/
theorem Builder.step_changed {builder next : Builder} {statement : Statement}
    (h : builder.step statement = some next) : Entries.Changed builder.root next.root := by
  cases statement with
  | entry path value =>
    obtain ⟨root, hroot, h⟩ := Option.bind_eq_some_iff.mp h
    exact Option.some.inj h ▸ Entries.update_changed Entries.assign_changed hroot
  | table path =>
    obtain ⟨key, -, h⟩ := Option.bind_eq_some_iff.mp h
    obtain ⟨root, hroot, h⟩ := Option.bind_eq_some_iff.mp h
    exact Option.some.inj h ▸ Entries.update_changed Entries.openTable_changed hroot
  | element path =>
    obtain ⟨key, -, h⟩ := Option.bind_eq_some_iff.mp h
    obtain ⟨root, hroot, h⟩ := Option.bind_eq_some_iff.mp h
    exact Option.some.inj h ▸ Entries.update_changed Entries.openElement_changed hroot

/-- **Statements one after the other keep the keys distinct.** -/
theorem nodup_keys_of_foldlM {statements : List Statement} {builder last : Builder}
    (h : statements.foldlM Builder.step builder = some last)
    (hkeys : (Entries.keys builder.root).Nodup) : (Entries.keys last.root).Nodup := by
  induction statements generalizing builder with
  | nil =>
    obtain rfl := Option.some.inj h
    exact hkeys
  | cons statement statements ih =>
    rw [List.foldlM_cons] at h
    obtain ⟨next, hnext, hrest⟩ := Option.bind_eq_some_iff.mp h
    exact ih hrest ((Builder.step_changed hnext).nodup_keys hkeys)

/-- **No document has a key twice.** -/
theorem nodup_keys_of_parse {text : String} {table : Table} (h : parse text = some table) :
    table.keys.Nodup := by
  obtain ⟨statements, -, h⟩ := Option.bind_eq_some_iff.mp h
  obtain ⟨builder, hbuilder, h⟩ := Option.bind_eq_some_iff.mp h
  obtain rfl := Option.some.inj h
  rw [Entries.keys_values]
  exact nodup_keys_of_foldlM hbuilder List.nodup_nil

end Doxyfile.Toml
