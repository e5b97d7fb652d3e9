import SheetStore.Sheet

/-!
# Rows and their product

A row binds *qualified* column names, of the form `table.column`, to values.  It is looked at
through `Row.get?` alone: of several bindings of one name the newest counts.  `merge` puts the
bindings of a second row on top of a first one, so it keeps every name of both, and on a name they
share the second row decides.

The product of several lists of rows has one merged row for each choice of one row from every list.
It is *row-major*: the choice from the last list varies fastest.  `pairs` is the product of two
lists, `product` folds it over any number, and the product of no lists is empty.
-/

namespace SheetStore

/-- The name of a column together with the name of its table. -/
def qualified (table column : String) : String := table ++ "." ++ column

/-- Values bound to qualified column names. -/
structure Row where
  /-- The bindings, newest first. -/
  bindings : List (String × String)
deriving DecidableEq, Repr, Inhabited

namespace Row

/-- The value of a name. -/
def get? (r : Row) (name : String) : Option String := r.bindings.lookup name

/-- The row with these bindings, of which the last is the newest. -/
def ofList (bindings : List (String × String)) : Row := ⟨bindings.reverse⟩

/-- The bindings of both rows, those of the second on top. -/
def merge (left right : Row) : Row := ⟨right.bindings ++ left.bindings⟩

/-- The row of a record of the table with these columns.  The shorter of the two decides how many
names are bound. -/
def ofRecord (table : String) (columns : List String) (record : Record) : Row :=
  ofList ((columns.map (qualified table)).zip record)

theorem get?_merge (left right : Row) (name : String) :
    (left.merge right).get? name = (right.get? name).or (left.get? name) := by
  simp [get?, merge, List.lookup_append]

theorem merge_assoc (a b c : Row) : (a.merge b).merge c = a.merge (b.merge c) := by
  simp [merge]

end Row

/-- Every row of the first list merged with every row of the second, the first list outermost. -/
def pairs (left right : List Row) : List Row := left.flatMap fun l => right.map l.merge

/-- The row-major product of the lists. -/
def product : List (List Row) → List Row
  | [] => []
  | first :: rest => rest.foldl pairs first

end SheetStore
