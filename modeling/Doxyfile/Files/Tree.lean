import Doxyfile.Files.Directory
import Doxyfile.Files.Path

/-!
# A tree of files

A `FileTree` says what is at a place: a file with its bytes, a directory, or nothing. The places
where counting starts are directories in every tree.

Reading and writing follow a path name by name, each name but the last leading through a directory.
Writing makes the directories on the way that are missing; those it has made stay when it fails
later. A file is replaced as a whole, or made, when everything before that has succeeded, so no
operation leaves part of a file.
-/

namespace Doxyfile

/-- What is at a place. -/
inductive FileEntry where
  | directory
  | file (bytes : ByteArray)

/-- Two entries are the same when they are both directories, or files with the same bytes. -/
instance : DecidableEq FileEntry := fun first second =>
  match first, second with
  | .directory, .directory => isTrue rfl
  | .directory, .file _ => isFalse nofun
  | .file _, .directory => isFalse nofun
  | .file a, .file b =>
    match ByteArray.instDecidableEq a b with
    | isTrue same => isTrue (congrArg FileEntry.file same)
    | isFalse apart => isFalse fun same => apart (FileEntry.file.inj same)

/-- A tree of files. -/
structure FileTree where
  entries : List (Location × FileEntry)

/-- What changes a tree and can fail. Changes made before a failure stay. -/
abbrev FileAction := ExceptT FileError (StateM FileTree)

/-- An outcome that comes without a change. -/
def FileAction.ofExcept (outcome : Except FileError α) : FileAction α :=
  ExceptT.mk (pure outcome)

namespace FileTree

/-- A tree with nothing in it. -/
def empty : FileTree := ⟨[]⟩

/-- What is at a place. -/
def entry? (tree : FileTree) (location : Location) : Option FileEntry :=
  if location.names.isEmpty then some .directory else tree.entries.lookup location

/-- Puts something at a place, in the stead of what was there. -/
def put (tree : FileTree) (location : Location) (entry : FileEntry) : FileTree :=
  if (tree.entries.lookup location).isSome then
    ⟨tree.entries.map fun (l, e) => if l = location then (l, entry) else (l, e)⟩
  else ⟨tree.entries ++ [(location, entry)]⟩

/-! ## Following a path -/

/-- Goes on from a place by a name. -/
def enter (tree : FileTree) (location : Location) (name : String) : Except FileError Location :=
  match tree.entry? location with
  | none => .error .notFound
  | some (.file _) => .error .notADirectory
  | some .directory =>
    if Path.nameLimit < name.utf8ByteSize then .error .nameTooLong else .ok (location.step name)

/-- The place that a path leads to. Nothing need be there. -/
def walk (tree : FileTree) (path : Path) : Except FileError Location :=
  path.names.foldlM tree.enter (Location.start path.isAbsolute)

/-- The place that a path leads to if the system takes the path. -/
def locate (tree : FileTree) (path : Path) : Except FileError Location := do
  path.permitted
  tree.walk path

/-- Whether a path leads to a directory. -/
def isDirectory (tree : FileTree) (path : Path) : Bool :=
  match tree.locate path with
  | .error _ => false
  | .ok location => tree.entry? location == some .directory

/-! ## Reading -/

/-- The bytes of the file that a path leads to. -/
def read (tree : FileTree) (path : Path) : Except FileError ByteArray := do
  let location ← tree.locate path
  match tree.entry? location with
  | none => .error .notFound
  | some .directory => .error .isADirectory
  | some (.file bytes) => if path.ending = .nothing then .ok bytes else .error .notADirectory

/-! ## Writing -/

/-- Makes a directory where there is nothing. -/
def makeDirectory (path : Path) : FileAction Unit := do
  let tree ← get
  let location ← FileAction.ofExcept (tree.locate path)
  match tree.entry? location with
  | some _ => throw .alreadyExists
  | none => set (tree.put location .directory)

/-- Makes the first of some directories, each of which is in the one after it, and those of them
that are missing on the way. -/
def ensureDirectories (paths : List Path) : FileAction Unit :=
  Directory.ensureAll makeDirectory (fun path => do pure ((← get).isDirectory path)) paths

/-- Replaces the file that a path leads to, or makes it, in a directory that is there. A path with a
slash at its end means a directory, whatever is there. -/
def replaceFile (path : Path) (bytes : ByteArray) : FileAction Unit := do
  FileAction.ofExcept path.permitted
  if path.ending = .slash then throw .isADirectory
  let tree ← get
  let location ← FileAction.ofExcept (tree.walk path)
  match path.ending, tree.entry? location with
  | _, some .directory => throw .isADirectory
  | .nothing, _ => set (tree.put location (.file bytes))
  | _, none => throw .notFound
  | _, some (.file _) => throw .notADirectory

/-- Writes a file, and makes the directories on the way to it. -/
def write (path : Path) (bytes : ByteArray) : FileAction Unit := do
  ensureDirectories path.directories
  replaceFile path bytes

/-! ## Comparing -/

/-- What is in the second tree, under the working directory, and not the same in the first. -/
def changes (before after : FileTree) : List (List String × FileEntry) :=
  after.entries.filterMap fun (location, entry) =>
    if location.base = .working ∧ before.entries.lookup location ≠ some entry then
      some (location.names, entry)
    else none

end FileTree

end Doxyfile
