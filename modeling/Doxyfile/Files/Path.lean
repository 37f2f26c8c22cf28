import Doxyfile.Files.Error

/-!
# Paths and the places they lead to

A `Path` is what a user writes: names with slashes between them, from the working directory or, with
a slash in front, from the root. It is kept piece by piece as it is written, for the system counts
its bytes. Pieces that are empty or a single dot lead nowhere and are no names, but how a path ends
matters: with a slash or a dot at the end it can only mean a directory.

A `Location` is a place in the tree of files. Places are counted from the working directory, from a
directory above it, or from the root.

Where the working directory itself lies is not known here. So places with different bases are
different: a path from the root, or one that goes up and comes down again, is never the same place
as one below the working directory, though the system may lead both to one file. A tree has no links
and no devices either, so that no two locations in it are one file.

The system takes names of at most 255 bytes and paths of fewer than 4096, none of them with a null
character.
-/

namespace Doxyfile

/-- What follows the last name of a path. -/
inductive PathEnding where
  | nothing
  | slash
  | dot
deriving DecidableEq, Repr

/-- A path, as the texts before, between and after its slashes. -/
structure Path where
  pieces : List String
deriving DecidableEq, Repr

namespace Path

/-- Cuts a text at every slash. -/
def cut : List Char → List (List Char)
  | [] => [[]]
  | c :: cs =>
    if c = '/' then [] :: cut cs
    else
      match cut cs with
      | [] => [[c]]
      | piece :: others => (c :: piece) :: others

/-- The path that a text writes. -/
def ofString (text : String) : Path :=
  ⟨(cut text.toList).map String.ofList⟩

/-- The text of a path. -/
def text (path : Path) : String :=
  String.ofList (List.intercalate ['/'] (path.pieces.map String.toList))

/-- Whether a path starts at the root. -/
def isAbsolute (path : Path) : Bool :=
  match path.pieces with
  | "" :: _ :: _ => true
  | _ => false

/-- Whether a piece leads somewhere. -/
def isName (piece : String) : Bool :=
  piece != "" && piece != "."

/-- The names of a path, from the first to the last. -/
def names (path : Path) : List String :=
  path.pieces.filter isName

/-- What follows the last name, from the pieces in reverse. Slashes after a dot change nothing. -/
def endingOf : List String → PathEnding
  | [] => .nothing
  | "" :: pieces => if endingOf pieces = .dot then .dot else .slash
  | piece :: _ => if piece = "." then .dot else .nothing

/-- What follows the last name of a path. -/
def ending (path : Path) : PathEnding :=
  endingOf path.pieces.reverse

/-- A path cut after each of its names, from the last name to the first, given its pieces in
reverse. -/
def stagesOf : List String → List Path
  | [] => []
  | piece :: above =>
    if isName piece then ⟨(piece :: above).reverse⟩ :: stagesOf above else stagesOf above

/-- The directories that a path leads through, from the one that holds what it leads to up to the
first that it names. -/
def directories (path : Path) : List Path :=
  (stagesOf path.pieces.reverse).tail

/-- The bytes that a name may have. -/
def nameLimit : Nat := 255

/-- The bytes that a path has fewer than. -/
def textLimit : Nat := 4096

/-- Whether the system takes a path, whatever the files are. -/
def permitted (path : Path) : Except FileError Unit :=
  if path.text.toList.contains '\x00' then .error .nullInName
  else if textLimit ≤ path.text.utf8ByteSize then .error .nameTooLong
  else .ok ()

end Path

/-- Where the counting of a place starts. -/
inductive Base where
  | working
  /-- So many directories above the working directory, one more than the number. -/
  | above (levels : Nat)
  | root
deriving DecidableEq, Repr

/-- A place in the tree of files: names downwards from a base. -/
structure Location where
  base : Base
  names : List String
deriving DecidableEq, Repr

namespace Location

/-- Where a path starts. -/
def start (absolute : Bool) : Location :=
  ⟨if absolute then .root else .working, []⟩

/-- The directory that holds a place. The root holds itself. -/
def parent (location : Location) : Location :=
  match location.names, location.base with
  | [], .working => ⟨.above 0, []⟩
  | [], .above levels => ⟨.above (levels + 1), []⟩
  | [], .root => location
  | names, base => ⟨base, names.dropLast⟩

/-- The place that a name leads to from a directory. -/
def step (location : Location) (name : String) : Location :=
  if name = ".." then location.parent else ⟨location.base, location.names ++ [name]⟩

end Location

end Doxyfile
