import Doxyfile.CommandLine.Run

/-!
# The program

The files and the standard streams of the process are the surroundings of the run.
-/

namespace Doxyfile.Console

/-- The number of an error, which may come with its sign turned. -/
def positive (code : UInt32) : UInt32 :=
  if code < 0x80000000 then code else 0 - code

/-- The number of an error of the system, and its words. -/
def systemError? : IO.Error → Option (UInt32 × String)
  | .alreadyExists _ code words | .interrupted _ code words | .noFileOrDirectory _ code words
  | .invalidArgument _ code words | .permissionDenied _ code words
  | .resourceExhausted _ code words | .inappropriateType _ code words
  | .noSuchThing _ code words | .otherError code words | .resourceBusy code words
  | .resourceVanished code words | .unsupportedOperation code words | .hardwareFault code words
  | .unsatisfiedConstraints code words | .illegalOperation code words | .protocolError code words
  | .timeExpired code words => some (positive code, words.capitalize)
  | _ => none

/-- An error of the system as one of a file. -/
def fileError (error : IO.Error) : FileError :=
  match systemError? error with
  | some (2, _) => .notFound
  | some (17, _) => .alreadyExists
  | some (20, _) => .notADirectory
  | some (21, _) => .isADirectory
  | some (36, _) => .nameTooLong
  | some (code, words) => .other (words ++ " (os error " ++ toString code ++ ")")
  | none => .other (toString error)

/-- An action on files and what it comes to. -/
def attempt (action : IO α) : ExceptT FileError IO α := ExceptT.mk do
  try pure (.ok (← action))
  catch error => pure (.error (fileError error))

/-- Makes a directory. -/
def makeDirectory (path : Path) : ExceptT FileError IO Unit :=
  attempt (IO.FS.createDir path.text)

/-- Whether a path leads to a directory: it is what holds itself. -/
def isDirectory (path : Path) : ExceptT FileError IO Bool := ExceptT.lift do
  match ← (attempt do IO.FS.realPath (toString (← IO.FS.realPath path.text) ++ "/.")).run with
  | .ok _ => pure true
  | .error _ => pure false

/-- The bytes on the standard input. -/
partial def readAll (input : IO.FS.Stream) (bytes : ByteArray) : IO ByteArray := do
  let more ← input.read 65536
  if more.isEmpty then pure bytes else readAll input (bytes ++ more)

/-- The process as the surroundings of the program. -/
def host : Host IO where
  readFile path := do
    pure ((← (attempt (IO.FS.readBinFile path)).run) >>= FileError.decode)
  readInput := do
    pure ((← (attempt (do readAll (← IO.getStdin) .empty)).run) >>= FileError.decode)
  writeFile text bytes := ExceptT.run do
    Directory.ensureAll makeDirectory isDirectory (Path.ofString text).directories
    attempt (IO.FS.writeBinFile text bytes.toUTF8)

end Doxyfile.Console

/-- Answers the arguments of the process. -/
def main (arguments : List String) : IO UInt32 := do
  let outcome ← Doxyfile.CommandLine.respond Doxyfile.Console.host arguments
  IO.print outcome.output
  IO.eprint outcome.errors
  pure outcome.code
