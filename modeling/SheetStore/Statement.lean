/-!
# Statements

The command language has four statements.  Names are kept as they are written, and the condition
of a statement is kept as text, since a statement may be well formed while its condition is not.
-/

namespace SheetStore

/-- A statement of the command language. -/
inductive Statement where
  /-- `SELECT t.a, u.b FROM t, u`, with or without `WHERE` and a condition. -/
  | select (fields tables : List String) (condition : Option String)
  /-- `INSERT INTO t VALUES ('x', 'y')`. -/
  | insert (table : String) (values : List String)
  /-- `DELETE FROM t, u`. -/
  | delete (tables : List String)
  /-- `DELETE FROM t, u WHERE` and a condition. -/
  | deleteWhere (tables : List String) (condition : String)
deriving DecidableEq, Repr, Inhabited

end SheetStore
