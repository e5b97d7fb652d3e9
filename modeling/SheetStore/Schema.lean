import Std.Data.ExtTreeMap
import SheetStore.Text.Word
import SheetStore.Text.Quoted

/-!
# Schemas

A schema names a database, its tables and the columns that each table declares.  Every table has one
more column in front of the declared ones, its key, which the database assigns (`keyColumn`).  The
schema also limits how many records a sheet takes before the next one is started.

The tables form a map ordered by name, so that every walk over a schema goes in that order.
`Schema.validate` checks what the storage layout and the command language rely on: all names are
identifiers, no table is without columns, and the columns of a table, its key included, differ.  It
reports the first fault in the order of the checks and of the tables.
-/

namespace SheetStore

/-- A database as it is declared. -/
structure Schema where
  /-- The name of the database. -/
  name : String
  /-- How many records a sheet takes. -/
  sheetLimit : Nat
  /-- The declared columns of each table, without its key. -/
  tables : Std.ExtTreeMap String (List String)

/-- The name of the key column of a table. -/
def keyColumn (table : String) : String := table ++ "_pk"

/-- The rule that a schema breaks. -/
inductive SchemaFault where
  /-- The name of the database is no identifier. -/
  | databaseName (name : String)
  /-- No sheet may take a record. -/
  | sheetLimit
  /-- There is no table. -/
  | noTables
  /-- The name of a table is no identifier. -/
  | tableName (table : String)
  /-- A table declares no column. -/
  | noColumns (table : String)
  /-- The name of a column is no identifier. -/
  | columnName (column table : String)
  /-- A declared column has the name of the key. -/
  | keyClash (column table : String)
  /-- A column is declared twice. -/
  | repeatedColumn (column table : String)
deriving DecidableEq, Repr

/-- The text of the fault. -/
def SchemaFault.message : SchemaFault → String
  | .databaseName name => "database name " ++ Text.quote name ++ " must be a non-empty word"
  | .sheetLimit => "tuples_limit must be greater than 0"
  | .noTables => "schema declares no tables"
  | .tableName table => "table name " ++ Text.quote table ++ " must be a non-empty word"
  | .noColumns table => "table " ++ table ++ " declares no columns"
  | .columnName column table =>
      "column " ++ Text.quote column ++ " of table " ++ table ++ " must be a non-empty word"
  | .keyClash column table =>
      "column " ++ column ++ " of table " ++ table ++ " clashes with the primary key"
  | .repeatedColumn column table => "column " ++ column ++ " declared twice in table " ++ table

namespace Schema

/-- All columns of a table, its key first, or nothing if the table is not declared. -/
def columns? (s : Schema) (table : String) : Option (List String) :=
  s.tables[table]?.map (keyColumn table :: ·)

/-- Checks the columns of a table that follow the earlier ones. -/
def checkColumns (table : String) (earlier : List String) :
    List String → Except SchemaFault Unit
  | [] => .ok ()
  | column :: rest =>
      if !Text.isIdentifier column then .error (.columnName column table)
      else if column = keyColumn table then .error (.keyClash column table)
      else if earlier.contains column then .error (.repeatedColumn column table)
      else checkColumns table (column :: earlier) rest

/-- Checks one table. -/
def checkTable (table : String) (columns : List String) : Except SchemaFault Unit :=
  if !Text.isIdentifier table then .error (.tableName table)
  else if columns.isEmpty then .error (.noColumns table)
  else checkColumns table [] columns

/-- Checks tables in their order. -/
def checkTables : List (String × List String) → Except SchemaFault Unit
  | [] => .ok ()
  | (table, columns) :: rest => do
      checkTable table columns
      checkTables rest

/-- Checks the rules of a schema. -/
def validate (s : Schema) : Except SchemaFault Unit :=
  if !Text.isIdentifier s.name then .error (.databaseName s.name)
  else if s.sheetLimit = 0 then .error .sheetLimit
  else if s.tables.isEmpty then .error .noTables
  else checkTables s.tables.toList

end Schema

end SheetStore
