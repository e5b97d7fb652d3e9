/-!
# Why a file operation fails

The causes are those of a file system with plain files and directories, and one of reading text:
the bytes of the file may not be UTF-8.  `message` gives the system's text and number for each.
-/

namespace SheetStore

/-- The cause of a failed file operation. -/
inductive FileError where
  /-- There is no such entry, and everything above it is a directory or missing. -/
  | notFound
  /-- A directory was to be made where a file is. -/
  | alreadyExists
  /-- A part of the path that has to be a directory is a file. -/
  | notADirectory
  /-- A file was to be read or written where a directory is. -/
  | isADirectory
  /-- The contents of the file are not UTF-8. -/
  | notText
deriving DecidableEq, Repr

/-- The text of the cause. -/
def FileError.message : FileError → String
  | .notFound => "No such file or directory (os error 2)"
  | .alreadyExists => "File exists (os error 17)"
  | .notADirectory => "Not a directory (os error 20)"
  | .isADirectory => "Is a directory (os error 21)"
  | .notText => "stream did not contain valid UTF-8"

end SheetStore
