import SheetStore.Sheet

/-!
# Outcomes

What a statement answers when it succeeds, and the text of it.  The text of a selection is a line
of field names and a line for each row that has values.
-/

namespace SheetStore

/-- What a statement answers. -/
inductive Outcome where
  /-- The fields of a selection and the values of its rows. -/
  | rows (fields : List String) (records : List Record)
  /-- The key of the new row. -/
  | inserted (key : Nat)
  /-- Tables were emptied. -/
  | deleted
  /-- How many rows were removed from all tables together. -/
  | deletedRows (count : Nat)
deriving DecidableEq, Repr

namespace Outcome

/-- The text of an outcome, if it has any. -/
def payload? : Outcome → Option String
  | .rows fields records =>
      some (Record.line fields
        ++ String.join ((records.filter (!·.isEmpty)).map Record.line))
  | .inserted key => some (toString key)
  | .deleted => none
  | .deletedRows count => some ("deleted " ++ toString count ++ " rows")

end Outcome

end SheetStore
