/-!
# Files

The little the program asks of a file system: whether a path is there, and what a file holds. What
asks is a function of the answers.

* `FileSystem` is a source of answers;
* `Path.join` is the path of a file in a directory.
-/

namespace Arcade

/-- Why a path could not be used. -/
inductive FileError
  | notFound
  | notADirectory
  | isADirectory
  /-- Any other reason, in words. -/
  | other (reason : String)
  deriving DecidableEq, Repr

/-- The reason in words, as the system gives it. -/
def FileError.message : FileError → String
  | notFound => "No such file or directory (os error 2)"
  | notADirectory => "Not a directory (os error 20)"
  | isADirectory => "Is a directory (os error 21)"
  | other reason => reason

/-- What the program can learn of files. -/
structure FileSystem where
  /-- Whether something is at a path. -/
  status : String → Except FileError Unit
  /-- The bytes of the file at a path. -/
  read : String → Except FileError (Array UInt8)

/-- The path of a name in a directory, with one slash between them. -/
def Path.join (directory name : String) : String :=
  if directory.isEmpty || directory.endsWith "/" then directory ++ name
  else directory ++ "/" ++ name

end Arcade
