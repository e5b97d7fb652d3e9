import SheetStore.Row

/-!
# Conditions

A condition chooses rows.  It is built from comparisons of a column with a literal by conjunction
and disjunction, and there is no negation.  A part of the text that is no comparison is kept as a
malformed leaf, which no row satisfies.

A condition is read in the *scope* of the tables that a statement names, and a comparison on any
other table fails.  There are two readings.

* `Condition.holds` is the meaning of the condition on a row that has the columns of every table
  in scope: each comparison looks its column up.
* `Condition.admits` looks at the row of one table of the scope alone.  A comparison on another
  table of the scope counts as satisfied, since the row cannot decide it.  As there is no negation,
  a row that is not admitted is no part of any row on which the condition holds.
-/

namespace SheetStore

/-- A condition on rows. -/
inductive Condition where
  /-- The column of the table has the value. -/
  | equals (table column value : String)
  /-- A text that is no comparison. -/
  | malformed (text : String)
  /-- Both conditions hold. -/
  | and (left right : Condition)
  /-- One of the conditions holds. -/
  | or (left right : Condition)
deriving DecidableEq, Repr, Inhabited

namespace Condition

/-- Whether the condition holds on a row with the columns of all tables in scope. -/
def holds (scope : List String) (row : Row) : Condition → Bool
  | .equals table column value =>
      scope.contains table && row.get? (qualified table column) == some value
  | .malformed _ => false
  | .and left right => left.holds scope row && right.holds scope row
  | .or left right => left.holds scope row || right.holds scope row

/-- Whether a row of the table `current` may be part of a row on which the condition holds. -/
def admits (scope : List String) (current : String) (row : Row) : Condition → Bool
  | .equals table column value =>
      scope.contains table
        && (table != current || row.get? (qualified table column) == some value)
  | .malformed _ => false
  | .and left right => left.admits scope current row && right.admits scope current row
  | .or left right => left.admits scope current row || right.admits scope current row

end Condition

end SheetStore
