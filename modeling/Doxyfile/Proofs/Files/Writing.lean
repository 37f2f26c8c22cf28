import Doxyfile.Files.Tree

/-!
# What writing a file does to a tree

Writing makes the directories on the way and then puts the file in its place. Of a tree in which it
has made directories one can say that it has `Grown`: where there was something there is the same,
and where there was nothing there may be a directory. `FileTree.write_on` says what there is when
writing has failed and when it has not, and `FileTree.Writable.read_put` that what has been written
is what is read.
-/

namespace Doxyfile

/-! ## The place of an entry -/

namespace FileTree

variable {tree : FileTree} {location : Location}

/-- The bytes of the file at a place, if there is a file. -/
def file? (tree : FileTree) (location : Location) : Option ByteArray :=
  match tree.entry? location with
  | some (.file bytes) => some bytes
  | some .directory => none
  | none => none

theorem lookup_replaced (location other : Location) (entry : FileEntry)
    (entries : List (Location × FileEntry)) :
    (entries.map fun (l, e) => if l = location then (l, entry) else (l, e)).lookup other =
      if other = location then (entries.lookup other).map fun _ => entry
      else entries.lookup other := by
  induction entries with
  | nil => simp
  | cons first others ih =>
    obtain ⟨place, found⟩ := first
    rw [List.map_cons]
    by_cases hother : other = place
    · subst hother
      by_cases hlocation : other = location
      · simp [hlocation]
      · simp [hlocation]
    · have hbeq : (other == place) = false := beq_eq_false_iff_ne.mpr hother
      by_cases hlocation : place = location
      · simp only [if_pos hlocation, List.lookup_cons, hbeq, ih]
      · simp only [if_neg hlocation, List.lookup_cons, hbeq, ih]

theorem lookup_put (tree : FileTree) (location other : Location) (entry : FileEntry) :
    (tree.put location entry).entries.lookup other =
      if other = location then some entry else tree.entries.lookup other := by
  by_cases hother : other = location
  · subst hother
    cases hlookup : tree.entries.lookup other with
    | none => simp [put, hlookup, List.lookup_append]
    | some found => simp [put, hlookup, lookup_replaced]
  · have hbeq : (other == location) = false := beq_eq_false_iff_ne.mpr hother
    cases hlookup : tree.entries.lookup location with
    | none => simp [put, hlookup, List.lookup_append, List.lookup_cons, hother, hbeq]
    | some found => simp [put, hlookup, lookup_replaced, hother]

theorem names_ne_nil (h : tree.entry? location ≠ some .directory) : location.names ≠ [] := by
  intro hnames
  apply h
  unfold entry?
  rw [hnames]
  rfl

/-- **What is put at a place is there, and nowhere else is anything new.** -/
theorem entry_put (h : tree.entry? location ≠ some .directory) (entry : FileEntry)
    (other : Location) :
    FileTree.entry? (tree.put location entry) other =
      if other = location then some entry else tree.entry? other := by
  unfold entry?
  rw [lookup_put]
  by_cases hother : other = location
  · subst hother
    have hnames : other.names.isEmpty = false := by simpa using names_ne_nil h
    simp [hnames]
  · simp [hother]

theorem file?_put (h : tree.entry? location ≠ some .directory) (bytes : ByteArray)
    (other : Location) :
    (tree.put location (.file bytes)).file? other =
      if other = location then some bytes else tree.file? other := by
  unfold file?
  rw [entry_put h]
  by_cases hother : other = location
  · simp [hother]
  · simp [hother]

/-! ## Following a path in a tree that keeps its directories -/

/-- A name leads on from a directory, and from nothing else. -/
theorem enter_eq_ok_iff {name : String} {next : Location} :
    tree.enter location name = .ok next ↔
      tree.entry? location = some .directory ∧ ¬ Path.nameLimit < name.utf8ByteSize ∧
        location.step name = next := by
  unfold enter
  cases tree.entry? location with
  | none => simp
  | some entry =>
    cases entry with
    | file bytes => simp
    | directory =>
      by_cases hname : Path.nameLimit < name.utf8ByteSize
      · simp [hname]
      · simp [hname]

/-- **A path leads to the same place** when no directory on the way is gone. -/
theorem walk_of_directories {after : FileTree} {path : Path}
    (hkept : ∀ place, tree.entry? place = some .directory → after.entry? place = some .directory)
    (h : tree.walk path = .ok location) : after.walk path = .ok location := by
  unfold walk at h ⊢
  generalize Location.start path.isAbsolute = start at h ⊢
  generalize path.names = names at h ⊢
  induction names generalizing start with
  | nil => exact h
  | cons name names ih =>
    rw [List.foldlM_cons] at h ⊢
    cases henter : tree.enter start name with
    | error error =>
      rw [henter] at h
      cases h
    | ok next =>
      obtain ⟨hentry, hname⟩ := enter_eq_ok_iff.mp henter
      rw [henter] at h
      rw [enter_eq_ok_iff.mpr ⟨hkept start hentry, hname⟩]
      exact ih next h

/-- **A file can be put where a path leads**: the system takes the path, which ends in a name, and
it leads to a place that is no directory. -/
structure Writable (tree : FileTree) (path : Path) (location : Location) : Prop where
  permitted : path.permitted = .ok ()
  ending : path.ending = .nothing
  walk : tree.walk path = .ok location
  entry : tree.entry? location ≠ some .directory

/-- **What has been put where a path leads is what is read**, and the path leads there still. -/
theorem Writable.read_put {path : Path} (h : tree.Writable path location) (bytes : ByteArray) :
    (tree.put location (.file bytes)).walk path = .ok location ∧
      (tree.put location (.file bytes)).read path = .ok bytes := by
  have hwalk : (tree.put location (.file bytes)).walk path = .ok location := by
    refine walk_of_directories (fun place hplace => ?_) h.walk
    have hne : place ≠ location := fun heq => h.entry (heq ▸ hplace)
    rw [entry_put h.entry, if_neg hne, hplace]
  have hentry :
      FileTree.entry? (tree.put location (.file bytes)) location = some (.file bytes) := by
    rw [entry_put h.entry, if_pos rfl]
  refine ⟨hwalk, ?_⟩
  rw [read, locate, h.permitted]
  show ((tree.put location (.file bytes)).walk path).bind _ = _
  simp [hwalk, Except.bind, hentry, h.ending]

end FileTree

/-! ## Actions that only make directories -/

/-- **Only directories have been added**, and only where there was nothing. -/
def FileTree.Grown (before after : FileTree) : Prop :=
  ∀ location, after.entry? location = before.entry? location ∨
    before.entry? location = none ∧ after.entry? location = some .directory

namespace FileTree.Grown

variable {before middle after : FileTree}

theorem refl (tree : FileTree) : tree.Grown tree :=
  fun _ => .inl rfl

theorem trans (h : before.Grown middle) (h' : middle.Grown after) : before.Grown after := by
  intro location
  rcases h location with hsame | ⟨hnone, hmade⟩
  · rcases h' location with hsame' | ⟨hnone', hmade'⟩
    · exact .inl (hsame'.trans hsame)
    · exact .inr ⟨hsame ▸ hnone', hmade'⟩
  · rcases h' location with hsame' | ⟨hnone', -⟩
    · exact .inr ⟨hnone, hsame'.trans hmade⟩
    · rw [hmade] at hnone'
      cases hnone'

/-- Directories do not touch files. -/
theorem file?_eq (h : before.Grown after) (location : Location) :
    after.file? location = before.file? location := by
  unfold file?
  rcases h location with hsame | ⟨hnone, hmade⟩
  · rw [hsame]
  · rw [hnone, hmade]

end FileTree.Grown

namespace FileAction

variable {α β : Type}

/-- What an action comes to on a tree, and the tree after it. -/
def on (action : FileAction α) (tree : FileTree) : Except FileError α × FileTree :=
  action.run.run tree

@[simp]
theorem on_throw (error : FileError) (tree : FileTree) :
    (throw error : FileAction α).on tree = (.error error, tree) :=
  rfl

@[simp]
theorem on_ofExcept (outcome : Except FileError α) (tree : FileTree) :
    (ofExcept outcome).on tree = (outcome, tree) :=
  rfl

@[simp]
theorem on_get (tree : FileTree) : (get : FileAction FileTree).on tree = (.ok tree, tree) :=
  rfl

@[simp]
theorem on_set (after tree : FileTree) : (set after : FileAction Unit).on tree = (.ok (), after) :=
  rfl

@[simp]
theorem on_bind (action : FileAction α) (next : α → FileAction β) (tree : FileTree) :
    (action >>= next).on tree =
      match action.on tree with
      | (.ok value, after) => (next value).on after
      | (.error error, after) => (.error error, after) := by
  show (ExceptT.bindCont next (action.on tree).1).run (action.on tree).2 = _
  rcases action.on tree with ⟨outcome, after⟩
  cases outcome with
  | ok value => rfl
  | error error => rfl

theorem on_tryCatch (action : FileAction α) (handle : FileError → FileAction α)
    (tree : FileTree) :
    (tryCatch action handle : FileAction α).on tree =
      match action.on tree with
      | (.ok value, after) => (.ok value, after)
      | (.error error, after) => (handle error).on after := by
  rcases hon : action.on tree with ⟨outcome, after⟩
  have hrun : @StateT.run FileTree Id (Except FileError α) action tree = (outcome, after) := hon
  simp only [on, tryCatch, tryCatchThe, MonadExceptOf.tryCatch, ExceptT.tryCatch, ExceptT.run_mk,
    StateT.run_bind, hrun]
  cases outcome with
  | ok value => rfl
  | error error => rfl

/-- **An action only makes directories**, whether it fails or not. -/
def Grows (action : FileAction α) : Prop :=
  ∀ tree : FileTree, tree.Grown (action.on tree).2

theorem Grows.bind {action : FileAction α} {next : α → FileAction β} (h : action.Grows)
    (hnext : ∀ value, (next value).Grows) : (action >>= next).Grows := by
  intro tree
  rw [on_bind]
  have hfirst := h tree
  rcases hon : action.on tree with ⟨outcome, after⟩
  rw [hon] at hfirst
  cases outcome with
  | ok value => exact hfirst.trans (hnext value after)
  | error error => exact hfirst

theorem Grows.tryCatch {action : FileAction α} {handle : FileError → FileAction α}
    (h : action.Grows) (hhandle : ∀ error, (handle error).Grows) :
    (MonadExcept.tryCatch action handle : FileAction α).Grows := by
  intro tree
  rw [on_tryCatch]
  have hfirst := h tree
  rcases hon : action.on tree with ⟨outcome, after⟩
  rw [hon] at hfirst
  cases outcome with
  | ok value => exact hfirst
  | error error => exact hfirst.trans (hhandle error after)

theorem Grows.ensure {make : Path → FileAction Unit} {isThere : Path → FileAction Bool}
    (hmake : ∀ path, (make path).Grows) (hthere : ∀ path, (isThere path).Grows) (path : Path) :
    (Directory.ensure make isThere path).Grows := by
  refine (hmake path).tryCatch fun error => (hthere path).bind fun there => ?_
  cases there with
  | true => exact fun tree => .refl tree
  | false => exact fun tree => .refl tree

/-- **Making directories one in the other only makes directories**, when making one does. -/
theorem Grows.ensureAll {make : Path → FileAction Unit} {isThere : Path → FileAction Bool}
    (hmake : ∀ path, (make path).Grows) (hthere : ∀ path, (isThere path).Grows)
    (paths : List Path) : (Directory.ensureAll make isThere paths).Grows := by
  induction paths with
  | nil => exact fun tree => .refl tree
  | cons path above ih =>
    refine (hmake path).tryCatch fun error => ?_
    by_cases herror : error = .notFound
    · rw [if_pos herror]
      exact ih.bind fun _ => .ensure hmake hthere path
    · rw [if_neg herror]
      refine (hthere path).bind fun there => ?_
      cases there with
      | true => exact fun tree => .refl tree
      | false => exact fun tree => .refl tree

end FileAction

namespace FileTree

/-- Making a directory changes a tree only at a place where there is nothing. -/
theorem makeDirectory_on (path : Path) (tree : FileTree) :
    (∃ error, (makeDirectory path).on tree = (.error error, tree)) ∨
      ∃ location, tree.entry? location = none ∧
        (makeDirectory path).on tree = (.ok (), tree.put location .directory) := by
  cases hlocate : tree.locate path with
  | error error => exact .inl ⟨error, by simp [makeDirectory, hlocate]⟩
  | ok location =>
    cases hentry : tree.entry? location with
    | some entry => exact .inl ⟨.alreadyExists, by simp [makeDirectory, hlocate, hentry]⟩
    | none => exact .inr ⟨location, hentry, by simp [makeDirectory, hlocate, hentry]⟩

theorem grows_makeDirectory (path : Path) : (makeDirectory path).Grows := by
  intro tree
  rcases makeDirectory_on path tree with ⟨error, hon⟩ | ⟨location, hentry, hon⟩
  · rw [hon]
    exact .refl tree
  · rw [hon]
    intro other
    show FileTree.entry? (tree.put location .directory) other = _ ∨ _
    rw [entry_put (by rw [hentry]; exact nofun)]
    by_cases hother : other = location
    · subst hother
      exact .inr ⟨hentry, if_pos rfl⟩
    · exact .inl (if_neg hother)

theorem grows_ensureDirectories (paths : List Path) : (ensureDirectories paths).Grows := by
  refine .ensureAll grows_makeDirectory (fun path tree => ?_) paths
  exact .refl tree

/-! ## Replacing a file -/

/-- **A file is replaced as a whole, or nothing happens.** -/
theorem replaceFile_on (path : Path) (bytes : ByteArray) (tree : FileTree) :
    (∃ error, (replaceFile path bytes).on tree = (.error error, tree)) ∨
      ∃ location, tree.Writable path location ∧
        (replaceFile path bytes).on tree = (.ok (), tree.put location (.file bytes)) := by
  cases hpermitted : path.permitted with
  | error error => exact .inl ⟨error, by simp [replaceFile, hpermitted]⟩
  | ok _ =>
    by_cases hslash : path.ending = .slash
    · exact .inl ⟨.isADirectory, by simp [replaceFile, hpermitted, hslash]⟩
    · cases hwalk : tree.walk path with
      | error error => exact .inl ⟨error, by simp [replaceFile, hpermitted, hslash, hwalk]⟩
      | ok location =>
        by_cases hentry : tree.entry? location = some .directory
        · exact .inl ⟨.isADirectory, by simp [replaceFile, hpermitted, hslash, hwalk, hentry]⟩
        · cases hending : path.ending with
          | slash => exact absurd hending hslash
          | dot =>
            -- nothing, or a file, where the path can only mean a directory
            cases hfound : tree.entry? location with
            | none =>
              exact .inl ⟨.notFound, by simp [replaceFile, hpermitted, hending, hwalk, hfound]⟩
            | some entry =>
              cases entry with
              | directory => exact absurd hfound hentry
              | file found =>
                exact .inl
                  ⟨.notADirectory, by simp [replaceFile, hpermitted, hending, hwalk, hfound]⟩
          | nothing =>
            refine .inr ⟨location, ⟨hpermitted, hending, hwalk, hentry⟩, ?_⟩
            simp [replaceFile, hpermitted, hending, hwalk]

/-- **What writing comes to.** Directories may have been made before it fails or succeeds. When it
succeeds, the path leads to a place that is no directory, and the file is there. -/
theorem write_on (path : Path) (bytes : ByteArray) (tree : FileTree) :
    ∃ grown, tree.Grown grown ∧
      ((∃ error, (write path bytes).on tree = (.error error, grown)) ∨
        ∃ location, grown.Writable path location ∧
          (write path bytes).on tree = (.ok (), grown.put location (.file bytes))) := by
  have hgrown := grows_ensureDirectories path.directories tree
  rw [write, FileAction.on_bind]
  rcases hon : (ensureDirectories path.directories).on tree with ⟨outcome, grown⟩
  rw [hon] at hgrown
  refine ⟨grown, hgrown, ?_⟩
  cases outcome with
  | error error => exact .inl ⟨error, rfl⟩
  | ok _ => exact replaceFile_on path bytes grown

end FileTree

end Doxyfile
