import SheetStore.Files.Operations

/-!
# Documents

A document is a text file from which one value is read, such as a schema.  It cannot be used if the
file cannot be read, or if its text is refused; `DocumentFault.context` says which, with the kind
of the document and its path.
-/

namespace SheetStore

/-- Why a document cannot be used. -/
inductive DocumentFault (ε : Type) where
  /-- The file cannot be read. -/
  | unreadable (path : Path) (cause : FileError)
  /-- The text of the file is refused. -/
  | refused (path : Path) (fault : ε)

/-- The sentence in front of the fault. -/
def DocumentFault.context (kind : String) : DocumentFault ε → String
  | .unreadable path _ => "can't read " ++ kind ++ " file " ++ path.text
  | .refused path _ => "invalid " ++ kind ++ " file " ++ path.text

/-- Reads the value of a document. -/
def FileTree.document (t : FileTree) (path : Path) (read : String → Except ε α) :
    Except (DocumentFault ε) α :=
  match t.readText path with
  | .error cause => .error (.unreadable path cause)
  | .ok text =>
      match read text with
      | .error fault => .error (.refused path fault)
      | .ok value => .ok value

end SheetStore
