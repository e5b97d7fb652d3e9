import SheetStore.Storage
import SheetStore.SheetNumber
import SheetStore.Row
import SheetStore.Text.Blank

/-!
# Tables

A table has a directory of its own, which holds its sheets and its *key sequence*, a file with the
decimal numeral of the next key.

```
<directory of the database>/<table>/1.csv
                                   /2.csv
                                   /<table>_pk_sequence
```

Questions about a table are functions of the file tree, and changes are storage actions.  A new
record goes to the first sheet that holds fewer records than the limit.  If all are full, it goes to
a new sheet after the last one.  The key sequence advances only when the record is written.
A deletion replaces the sheets that lose records, each as a whole, and never merges sheets.
-/

namespace SheetStore

/-- The record of a key and the values of the declared columns. -/
def keyedRecord (key : Nat) (values : List String) : Record := toString key :: values

/-- A table of a database. -/
structure Table where
  /-- The name of the table. -/
  name : String
  /-- The directory of the table. -/
  dir : Path
  /-- All columns, the key first. -/
  columns : List String
deriving DecidableEq

namespace Table

/-! ## Paths -/

/-- The file of a sheet. -/
def sheetPath (t : Table) (n : SheetNumber) : Path := t.dir.entry n.fileName

/-- The file of the key sequence. -/
def keyPath (t : Table) : Path := t.dir.entry (t.name ++ "_pk_sequence")

/-! ## Questions -/

/-- The numbers of the sheets in ascending order. -/
def sheetNumbers (t : Table) (files : FileTree) : Except Failure (List SheetNumber) :=
  match files.list t.dir with
  | .error cause => .error (.storage t.dir cause)
  | .ok entries =>
      .ok (SheetNumber.ascending (entries.filterMap fun
        | (name, .file _) => SheetNumber.ofFileName? name
        | (_, .directory) => none))

/-- The records of a sheet. -/
def readSheet (t : Table) (n : SheetNumber) (files : FileTree) : Except Failure Sheet :=
  match files.readText (t.sheetPath n) with
  | .error cause => .error (.storage (t.sheetPath n) cause)
  | .ok text =>
      match Sheet.decode t.columns text with
      | .error fault => .error (.unreadable (.sheetFile (t.sheetPath n) fault))
      | .ok sheet => .ok sheet

/-- The sheets of the given numbers, each with its number. -/
def readSheets (t : Table) (files : FileTree) :
    List SheetNumber → Except Failure (List (SheetNumber × Sheet))
  | [] => .ok []
  | n :: rest => do
      let sheet ← t.readSheet n files
      let sheets ← t.readSheets files rest
      return (n, sheet) :: sheets

/-- All sheets in ascending order, each with its number. -/
def sheets (t : Table) (files : FileTree) : Except Failure (List (SheetNumber × Sheet)) := do
  t.readSheets files (← t.sheetNumbers files)

/-- The row of a record. -/
def row (t : Table) (record : Record) : Row := Row.ofRecord t.name t.columns record

/-- The rows of all sheets. -/
def rows (t : Table) (files : FileTree) : Except Failure (List Row) := do
  return (← t.sheets files).flatMap fun (_, sheet) => sheet.map t.row

/-- The next key. -/
def nextKey (t : Table) (files : FileTree) : Except Failure Nat :=
  match files.readText t.keyPath with
  | .error cause => .error (.storage t.keyPath cause)
  | .ok text =>
      match Text.signedWord? (Text.trim text.toList) with
      | some key => .ok key
      | none => .error (.unreadable (.keySequence t.keyPath text))

/-- The first of the sheets that holds fewer records than the limit.  The sheets after it are not
read. -/
def firstWithRoom? (t : Table) (limit : Nat) (files : FileTree) :
    List SheetNumber → Except Failure (Option SheetNumber)
  | [] => .ok none
  | n :: rest => do
      let sheet ← t.readSheet n files
      if sheet.length < limit then return some n else t.firstWithRoom? limit files rest

/-! ## Changes -/

/-- Makes what is missing of the directory, the first sheet and the key sequence. -/
def ensure (t : Table) : Storage Unit := do
  Storage.change t.dir (·.createDirAll t.dir)
  Storage.ensureText (t.sheetPath .first) (Record.line t.columns)
  Storage.ensureText t.keyPath "1"

/-- Removes everything in the directory and makes the table anew. -/
def clear (t : Table) : Storage Unit := do
  Storage.change t.dir fun files =>
    match files.removeDirAll t.dir with
    | .error .notFound => .ok files
    | result => result
  t.ensure

/-- Replaces the records of a sheet, or makes the sheet. -/
def writeSheet (t : Table) (n : SheetNumber) (sheet : Sheet) : Storage Unit :=
  Storage.replaceText (t.sheetPath n) (sheet.encode t.columns)

/-- Adds a record to a sheet that is there. -/
def appendRecord (t : Table) (n : SheetNumber) (record : Record) : Storage Unit :=
  Storage.change (t.sheetPath n) (·.append (t.sheetPath n) record.line.toUTF8)

/-- Sets the next key. -/
def setNextKey (t : Table) (key : Nat) : Storage Unit :=
  Storage.replaceText t.keyPath (toString key)

/-- Adds a record of the next key and the values, and answers the key. -/
def insert (t : Table) (limit : Nat) (values : List String) : Storage Nat := do
  let key ← Storage.reading t.nextKey
  let numbers ← Storage.reading t.sheetNumbers
  match ← Storage.reading (t.firstWithRoom? limit · numbers) with
  | some n => t.appendRecord n (keyedRecord key values)
  | none =>
      let n := (numbers.getLast?.map SheetNumber.next).getD .first
      t.writeSheet n [keyedRecord key values]
  t.setNextKey (key + 1)
  return key

/-- Removes the matching records from the sheets and answers how many they were.  A sheet without a
match is left alone. -/
def deleteFrom (t : Table) (selects : Row → Bool) : List (SheetNumber × Sheet) → Storage Nat
  | [] => return 0
  | (n, sheet) :: rest => do
      let kept := sheet.filter fun record => !selects (t.row record)
      if kept.length ≠ sheet.length then t.writeSheet n kept
      return sheet.length - kept.length + (← t.deleteFrom selects rest)

/-- Removes the matching records of all sheets and answers how many they were. -/
def deleteWhere (t : Table) (selects : Row → Bool) : Storage Nat := do
  t.deleteFrom selects (← Storage.reading t.sheets)

end Table

end SheetStore
