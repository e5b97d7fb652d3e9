import SheetStore.Files.Operations
import SheetStore.Failure

/-!
# Storage actions

An action reads and changes a file tree and answers a value or a failure.  A failure keeps the
changes made before it, as a file system does.  `Storage.reading` turns a question about the tree
into an action, and `Storage.change` makes one file operation an action whose failure names a path.

`replaceText` writes a file as a whole: first a sibling with `.tmp` at the end of its name, which
then takes the place of the file.  At no point does the file hold a part of the new text.
-/

namespace SheetStore

/-- An action on a file tree. -/
abbrev Storage := EStateM Failure FileTree

namespace Storage

/-- A question about the tree. -/
def reading (question : FileTree → Except Failure α) : Storage α := fun files =>
  match question files with
  | .ok a => .ok a files
  | .error failure => .error failure files

/-- A file operation at a path. -/
def change (path : Path) (operation : FileTree → Except FileError FileTree) : Storage Unit :=
  fun files =>
    match operation files with
    | .ok files' => .ok () files'
    | .error cause => .error (.storage path cause) files

/-- The sibling that holds a new text until it is complete. -/
def temporary (path : Path) : Path := path.extend ".tmp"

/-- Replaces the text of a file as a whole, or makes the file. -/
def replaceText (path : Path) (text : String) : Storage Unit := do
  change (temporary path) (·.write (temporary path) text.toUTF8)
  change path (·.rename (temporary path) path)

/-- Makes a file with the text unless there is something at its path. -/
def ensureText (path : Path) (text : String) : Storage Unit := do
  if !(← get).contains path then replaceText path text

end Storage

end SheetStore
