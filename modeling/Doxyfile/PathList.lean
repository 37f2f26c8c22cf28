/-!
# Lists of paths as the value of a field

A list is written with a space in front of every entry, so that `INPUT =` and the written list make
`INPUT = src include`. The empty list is written as nothing.

Entries are not quoted: an entry with a space in it reads as two.
-/

namespace Doxyfile.PathList

/-- The entries one after the other, each after a space. -/
def joined : List String → String
  | [] => ""
  | path :: paths => " " ++ path ++ joined paths

end Doxyfile.PathList
