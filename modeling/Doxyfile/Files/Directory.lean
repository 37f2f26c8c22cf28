import Doxyfile.Files.Path

/-!
# Making directories

A directory is made together with those on the way to it that are missing. What makes a single
directory and what tells whether there is one are parameters, so the order of the steps is the same
on a tree of files and on the files of a process.

A directory that turns out to be there already is as good as one that has been made.
-/

namespace Doxyfile.Directory

variable {m : Type → Type} [Monad m] [MonadExceptOf FileError m]

/-- Makes a directory unless there is one. -/
def ensure (make : Path → m Unit) (isThere : Path → m Bool) (path : Path) : m Unit :=
  tryCatch (make path) fun error => do
    if ← isThere path then pure () else throw error

/-- Makes the first of some directories, each of which is in the one after it, and those of them
that are missing on the way. Only what is missing on the way is made, so an error of another kind
ends it. -/
def ensureAll (make : Path → m Unit) (isThere : Path → m Bool) : List Path → m Unit
  | [] => pure ()
  | path :: above =>
    tryCatch (make path) fun error => do
      if error = .notFound then
        ensureAll make isThere above
        ensure make isThere path
      else if ← isThere path then pure ()
      else throw error

end Doxyfile.Directory
