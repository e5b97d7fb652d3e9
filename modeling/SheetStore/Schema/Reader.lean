import SheetStore.Schema
import SheetStore.Json.Reader
import SheetStore.Files.Document

/-!
# Reading schemas

A schema is written as a JSON object with the fields `name`, `tuples_limit` and `structure`, of
which the last maps each table to the list of its declared columns.

```
{ "name": "shop", "tuples_limit": 1000,
  "structure": { "beer": ["name", "style"], "cars": ["model"] } }
```

A table that comes twice has the columns of its last place.  What has been read is validated before
it is answered.
-/

namespace SheetStore

/-- Why a text is no schema. -/
inductive SchemaTextFault where
  /-- The text is no JSON of the right shape. -/
  | json (fault : Json.Fault)
  /-- The schema breaks a rule. -/
  | rule (fault : SchemaFault)

namespace Schema

open Json

/-- The fields of a schema that have been read so far. -/
structure Draft where
  /-- The field `name`. -/
  name : Option String := none
  /-- The field `tuples_limit`. -/
  sheetLimit : Option Nat := none
  /-- The field `structure`. -/
  tables : Option (Std.ExtTreeMap String (List String)) := none

namespace Draft

/-- Reads the name of a database. -/
def readName : Reader String := Reader.text "a string"

/-- Reads the limit of a sheet. -/
def readLimit : Reader Nat := Reader.natural Text.wordBound "usize"

/-- Reads the columns of one table and adds it to those before. -/
def readTable (tables : Std.ExtTreeMap String (List String)) (table : String) :
    Reader (Std.ExtTreeMap String (List String)) := do
  Reader.colon
  return tables.insert table (← Reader.list (Reader.text "a string"))

/-- Reads the tables. -/
def readTables : Reader (Std.ExtTreeMap String (List String)) := do
  match ← Reader.next with
  | .openObject => Reader.members readTable ∅
  | token => throw (Reader.unexpected token "a map")

/-- Reads one member of a schema that is given as an object. -/
def member (d : Draft) (name : String) : Reader Draft := do
  match name with
  | "name" => return { d with name := ← Reader.once name d.name readName }
  | "tuples_limit" => return { d with sheetLimit := ← Reader.once name d.sheetLimit readLimit }
  | "structure" => return { d with tables := ← Reader.once name d.tables readTables }
  | _ =>
      Reader.ignore
      return d

/-- Reads the members of a schema, all of which have to be there. -/
def ofObject : Reader Schema := do
  let d ← Reader.members member {}
  let name ← Reader.required "name" d.name
  let sheetLimit ← Reader.required "tuples_limit" d.sheetLimit
  let tables ← Reader.required "structure" d.tables
  return { name, sheetLimit, tables }

/-- Reads a schema that is given as an array of its fields. -/
def ofArray : Reader Schema := do
  let shape := "struct Schema with 3 elements"
  let name ← Reader.position shape 0 none readName
  let sheetLimit ← Reader.position shape 1 none readLimit
  let tables ← Reader.position shape 2 none readTables
  return { name, sheetLimit, tables }

end Draft

/-- Reads a schema and validates it. -/
def ofText (text : String) : Except SchemaTextFault Schema :=
  match Reader.run (Reader.struct "struct Schema" Draft.ofObject Draft.ofArray) text with
  | .error fault => .error (.json fault)
  | .ok schema =>
      match schema.validate with
      | .error fault => .error (.rule fault)
      | .ok () => .ok schema

/-- Reads the schema in a file. -/
def load (files : FileTree) (path : Path) : Except (DocumentFault SchemaTextFault) Schema :=
  files.document path ofText

end Schema

end SheetStore
