import SheetStore.Table
import SheetStore.Text.Pieces
import SheetStore.Condition
import SheetStore.JoinMode

/-!
# Queries

A query reads one or more tables and answers the values of some of their columns.  It filters the
rows of each table by what its condition admits, forms the product in the order of the tables,
filters that by the condition itself if the mode says so, and takes the requested fields of each row
that is left.  With a single table there is no product and the first filter is all.

Fields are checked before any sheet is read.
-/

namespace SheetStore.Query

/-- Checks one field, which has to be a table of the query and a column of it with a point between
them. -/
def checkField (tables : List Table) (field : String) : Except Failure Unit :=
  match Text.cut? '.' field.toList with
  | none => .error (.invalidField field .notQualified)
  | some (table, column) =>
      match tables.find? (·.name == String.ofList table) with
      | none => .error (.invalidField field .tableNotListed)
      | some t =>
          if t.columns.contains (String.ofList column) then .ok ()
          else .error (.invalidField field .noSuchColumn)

/-- Checks the fields in their order. -/
def checkFields (tables : List Table) : List String → Except Failure Unit
  | [] => .ok ()
  | field :: rest => do
      checkField tables field
      checkFields tables rest

/-- The rows of a table that the condition admits. -/
def admitted (scope : List String) (condition : Option Condition) (files : FileTree) (t : Table) :
    Except Failure (List Row) := do
  let rows ← t.rows files
  match condition with
  | none => return rows
  | some c => return rows.filter (c.admits scope t.name)

/-- The admitted rows of each table. -/
def admittedSets (scope : List String) (condition : Option Condition) (files : FileTree) :
    List Table → Except Failure (List (List Row))
  | [] => .ok []
  | t :: rest => do
      let rows ← admitted scope condition files t
      let sets ← admittedSets scope condition files rest
      return rows :: sets

/-- The rows of the tables that a query is about. -/
def joinedRows (mode : JoinMode) (tables : List Table) (condition : Option Condition)
    (files : FileTree) : Except Failure (List Row) := do
  let scope := tables.map Table.name
  let rows := product (← admittedSets scope condition files tables)
  match tables, condition, mode with
  | [_], _, _ => return rows
  | _, some c, .joined => return rows.filter (c.holds scope)
  | _, _, _ => return rows

/-- The values of the requested fields of a row. -/
def project (fields : List String) (row : Row) : Record := fields.filterMap row.get?

/-- Answers the requested fields of the rows that the condition selects. -/
def select (mode : JoinMode) (tables : List Table) (fields : List String)
    (condition : Option Condition) (files : FileTree) : Except Failure (List Record) := do
  checkFields tables fields
  return (← joinedRows mode tables condition files).map (project fields)

end SheetStore.Query
