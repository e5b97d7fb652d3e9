import SheetStore.Files.Changes
import SheetStore.Schema.Reader
import SheetStore.Settings.Reader
import SheetStore.Session

/-!
# The command line

`sheetstore --config FILE` reads settings and a schema, opens the database, and serves one client on
standard input and output.

The sheets and the key sequences are read once at the start, the sheets of a table from the first
one up to the first that is missing.  Every line is then answered by the library, and what it
changes in the file tree is carried out on disk before the answer is written.
-/

namespace SheetStore.CommandLine

/-! ## Reading -/

/-- The contents of a file, or nothing if it cannot be read. -/
def contents? (path : Path) : IO (Option ByteArray) := do
  try
    return some (← IO.FS.readBinFile path.text)
  catch _ => return none

/-- Puts a file into the tree if it is there. -/
def loadFile (files : FileTree) (path : Path) : IO (Option FileTree) := do
  match path, ← contents? path with
  | .entry dir name, some contents =>
      match files.createDirAll dir with
      | .ok files => return some (files.put dir name (.file contents))
      | .error _ => return none
  | _, _ => return none

/-- Puts the sheets of a table into the tree, beginning with the one of the given number. -/
partial def loadSheets (files : FileTree) (t : Table) (n : SheetNumber) : IO FileTree := do
  match ← loadFile files (t.sheetPath n) with
  | some files => loadSheets files t n.next
  | none => return files

/-- The files of the tables. -/
def loadTables (tables : List Table) : IO FileTree :=
  tables.foldlM (fun files t => do
    let files := (← loadFile files t.keyPath).getD files
    loadSheets files t .first) .empty

/-! ## Writing -/

/-- Carries out a change. -/
def perform : FileTree.Change → IO Unit
  | .remove path => IO.FS.removeFile path.text
  | .makeDirectory path => IO.FS.createDirAll path.text
  | .write path contents => do
      IO.FS.writeBinFile (Storage.temporary path).text contents
      IO.FS.rename (Storage.temporary path).text path.text

/-- Carries out the changes from one tree to another. -/
def performAll (before after : FileTree) : IO Unit := (before.changes after).forM perform

/-! ## Serving -/

/-- Serves the client line by line. -/
partial def serve (db : Database) (files : FileTree) : IO Unit := do
  let output ← IO.getStdout
  output.putStr Session.prompt
  output.flush
  let line ← (← IO.getStdin).getLine
  let turn := Session.turn db .closed line.toUTF8.toList files
  performAll files turn.files
  output.putStr turn.output
  output.flush
  if turn.rest.isSome then serve db turn.files

/-- Opens the database of the settings and serves the client. -/
def start (settings : Settings) (schema : Schema) : IO UInt32 := do
  let db : Database := ⟨.base settings.storagePath, schema, settings.joinMode⟩
  IO.FS.createDirAll db.dir.text
  let files ← loadTables db.allTables
  match db.ensure files with
  | .error failure _ =>
      IO.eprintln failure.message
      return 1
  | .ok () opened =>
      performAll files opened
      serve db opened
      return 0

/-- Reads a document from disk. -/
def document (kind path : String) (read : String → Except ε α) : IO (Option α) := do
  match ← contents? (.base path) with
  | none =>
      IO.eprintln ("can't read " ++ kind ++ " file " ++ path)
      return none
  | some contents =>
      match (String.fromUTF8? contents).map read with
      | some (.ok value) => return some value
      | _ =>
          IO.eprintln ("invalid " ++ kind ++ " file " ++ path)
          return none

/-- Runs the program with the settings in a file. -/
def run (path : String) : IO UInt32 := do
  match ← document "config" path Settings.ofText with
  | none => return 1
  | some settings =>
      match ← document "schema" settings.schemaPath Schema.ofText with
      | none => return 1
      | some schema => start settings schema

end SheetStore.CommandLine

/-- Runs the program. -/
def main : List String → IO UInt32
  | ["--config", path] => SheetStore.CommandLine.run path
  | _ => do
      IO.eprintln "usage: sheetstore --config FILE"
      return 2
