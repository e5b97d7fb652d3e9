import SheetStore.Schema
import SheetStore.Query
import SheetStore.Locks

/-!
# Databases

A database keeps the tables of one schema in a directory of its own below a storage directory.

```
<root>/<name of the schema>/<table>/1.csv, 2.csv, …
                                    <table>_pk_sequence
```

All data is in the files.  A `Database` only says where to look and what to look for, so opening it
again over the same files loses nothing: that makes what is missing and leaves all else as it is.
-/

namespace SheetStore

/-- The database of a schema below a storage directory. -/
structure Database where
  /-- The storage directory, which holds the directory of the database. -/
  root : Path
  /-- The tables and their columns. -/
  schema : Schema
  /-- How conditions over several tables are enforced. -/
  joinMode : JoinMode

namespace Database

/-- The directory of the database. -/
def dir (db : Database) : Path := db.root.entry db.schema.name

/-- The table of a name, if the schema declares it. -/
def table? (db : Database) (name : String) : Option Table :=
  (db.schema.columns? name).map fun columns => ⟨name, db.dir.entry name, columns⟩

/-- The table of a name. -/
def table (db : Database) (name : String) : Except Failure Table :=
  match db.table? name with
  | some t => .ok t
  | none => .error (.unknownTable name)

/-- The tables of the names, up to the first that is not declared. -/
def tables (db : Database) : List String → Except Failure (List Table)
  | [] => .ok []
  | name :: rest => do
      let t ← db.table name
      let ts ← db.tables rest
      return t :: ts

/-- All tables in the order of their names. -/
def allTables (db : Database) : List Table := db.schema.tables.keys.filterMap db.table?

/-- The locks when no statement runs. -/
def locks (db : Database) : Locks := { tables := db.schema.tables.keys }

/-- The tables that a statement locks, in order. -/
def lockPlan (db : Database) (tables : List String) : Except Failure (List String) :=
  SheetStore.lockPlan db.schema.tables.contains tables

/-! ## Opening and removing -/

/-- Makes the given tables as far as they are missing. -/
def ensureTables : List Table → Storage Unit
  | [] => return ()
  | t :: rest => do
      t.ensure
      ensureTables rest

/-- Makes what is missing of the directory of the database and of its tables. -/
def ensure (db : Database) : Storage Unit := do
  Storage.change db.dir (·.createDirAll db.dir)
  ensureTables db.allTables

/-- Opens the database of a schema. -/
def openAt (root : Path) (schema : Schema) (joinMode : JoinMode) : Storage Database := do
  let db : Database := { root, schema, joinMode }
  db.ensure
  return db

/-- Removes the storage directory with everything in it. -/
def remove (db : Database) : Storage Unit :=
  Storage.change db.root fun files =>
    match files.removeDirAll db.root with
    | .error .notFound => .ok files
    | result => result

/-! ## Statements on tables -/

/-- Checks that a sheet can hold the values, up to the first that it cannot hold. -/
def checkValues : List String → Except Failure Unit
  | [] => .ok ()
  | value :: rest =>
      let s := value.toList
      if s.contains ',' then .error .commaInValue
      else if s.contains '\n' || s.contains '\r' then .error .lineBreakInValue
      else checkValues rest

/-- The table of an insertion, if it takes the values. -/
def insertionTable (db : Database) (name : String) (values : List String) :
    Except Failure Table := do
  let t ← db.table name
  let expected := t.columns.length - 1
  if values.length ≠ expected then throw (.wrongValueCount expected values.length)
  checkValues values
  return t

/-- Inserts a row with the values of its declared columns, and answers its key. -/
def insert (db : Database) (name : String) (values : List String) : Storage Nat := do
  let t ← Storage.reading fun _ => db.insertionTable name values
  t.insert db.schema.sheetLimit values

/-- Answers the requested fields of the rows that a condition selects. -/
def select (db : Database) (fields tables : List String) (condition : Option Condition)
    (files : FileTree) : Except Failure (List Record) := do
  Query.select db.joinMode (← db.tables tables) fields condition files

/-- Empties a table.  Its keys start again at one. -/
def delete (db : Database) (name : String) : Storage Unit := do
  let t ← Storage.reading fun _ => db.table name
  t.clear

/-- Removes the rows of a table that a condition selects, and answers how many they were. -/
def deleteWhere (db : Database) (name : String) (condition : Condition) : Storage Nat := do
  let t ← Storage.reading fun _ => db.table name
  t.deleteWhere (condition.admits [name] name)

end Database

end SheetStore
