/-!
# Reading files

What a program needs from a file system: the text at a path, or the reason why
there is none. The reader may have effects.
-/

namespace StableTypes

/-- Why a file cannot be read. -/
inductive FileError where
  /-- There is nothing at the path. -/
  | missing (path : String)
  /-- The path leads through a file. -/
  | notDirectory (path : String)
  /-- There is a directory at the path. -/
  | isDirectory
  /-- Another reason, in words. -/
  | other (message : String)
deriving DecidableEq, Inhabited

/-- Why a file cannot be read, in one line. -/
def FileError.message : FileError → String
  | .missing path => s!"ENOENT: no such file or directory, open '{path}'"
  | .notDirectory path => s!"ENOTDIR: not a directory, open '{path}'"
  | .isDirectory => "EISDIR: illegal operation on a directory, read"
  | .other message => message

/-- Access to files from a working directory. -/
structure Files (m : Type → Type) where
  /-- The working directory, an absolute path. -/
  directory : String
  /-- The text of the file at a path. -/
  read : (path : String) → m (Except FileError String)

end StableTypes
