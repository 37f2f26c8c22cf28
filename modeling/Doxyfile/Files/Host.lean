import Doxyfile.Files.Tree

/-!
# What the program asks of its surroundings

A `Host` reads and writes files and reads the standard input, in any monad. The program is written
against it, so it runs in a process and on a tree of files alike.
-/

namespace Doxyfile

/-- The surroundings of the program. -/
structure Host (m : Type → Type) where
  /-- The text of a file. -/
  readFile : String → m (Except FileError String)
  /-- The text on the standard input. -/
  readInput : m (Except FileError String)
  /-- Writes a text to a file, and makes the directories on the way to it. -/
  writeFile : String → String → m (Except FileError Unit)

/-- Bytes as a text. -/
def FileError.decode (bytes : ByteArray) : Except FileError String :=
  match String.fromUTF8? bytes with
  | some text => .ok text
  | none => .error .invalidText

/-- A tree of files, and the bytes on the standard input. -/
structure Machine where
  tree : FileTree
  input : ByteArray

namespace Machine

/-- A machine as the surroundings of the program. -/
def host : Host (StateM Machine) where
  readFile path := do
    pure ((← get).tree.read (Path.ofString path) >>= FileError.decode)
  readInput := do
    pure (FileError.decode (← get).input)
  writeFile path text := do
    let machine ← get
    let (outcome, tree) := (FileTree.write (Path.ofString path) text.toUTF8).run.run machine.tree
    set { machine with tree := tree }
    pure outcome

end Machine

end Doxyfile
