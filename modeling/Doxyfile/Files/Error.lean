/-!
# Why a file is not read or written
-/

namespace Doxyfile

/-- Why a file is not read or written. -/
inductive FileError where
  | notFound
  | alreadyExists
  | notADirectory
  | isADirectory
  /-- A name, or a path as a whole, has more bytes than the system takes. -/
  | nameTooLong
  /-- A name holds the character that ends names in the system. -/
  | nullInName
  /-- The bytes are no text in UTF-8. -/
  | invalidText
  /-- Something else, in the words of the system. -/
  | other (message : String)
deriving DecidableEq, Repr

/-- The error in words, with its number where it has one. -/
def FileError.message : FileError → String
  | .notFound => "No such file or directory (os error 2)"
  | .alreadyExists => "File exists (os error 17)"
  | .notADirectory => "Not a directory (os error 20)"
  | .isADirectory => "Is a directory (os error 21)"
  | .nameTooLong => "File name too long (os error 36)"
  | .nullInName => "file name contained an unexpected NUL byte"
  | .invalidText => "stream did not contain valid UTF-8"
  | .other message => message

end Doxyfile
