/-!
# Stores of files

A compilation reads one file and may write another. It does so through a store, which answers
every request with a result or with the reason why there is none.
-/

namespace GuardedProxy

inductive FileError
  | missing
  | notDirectory
  | isDirectory
  | alreadyExists
  | unusableName
  | notText
  | other (reason : String)
deriving DecidableEq, Repr

def FileError.reason : FileError → String
  | missing => "No such file or directory"
  | notDirectory => "Not a directory"
  | isDirectory => "Is a directory"
  | alreadyExists => "File exists"
  | unusableName => "File name not allowed"
  | notText => "Not UTF-8 text"
  | other reason => reason

class FileStore (m : Type → Type) where
  /-- Whether the path leads to a file or a directory. -/
  pathExists : String → m Bool
  /-- The content of a file that is UTF-8 text. -/
  readText : String → m (Except FileError String)
  /-- Makes a directory and those above it, as far as they are missing. -/
  createDirectories : String → m (Except FileError Unit)
  /-- Makes or replaces a file. -/
  writeText : String → String → m (Except FileError Unit)

end GuardedProxy
