import SheetStore.Condition
import SheetStore.Failure
import SheetStore.Text.Keyword
import SheetStore.Text.Pieces

/-!
# Reading conditions

A condition is written as comparisons `table.column = 'literal'` with `AND` and `OR` between them.
`AND` binds tighter, there are no parentheses, and chains nest to the right.  The text is cut at
every `OR` and each part at every `AND`, before any quote is looked at, so the words count as
operators inside a literal too.

Reading fails only on a blank text.  What is left between the operators and is no comparison
becomes a malformed leaf.
-/

namespace SheetStore.Condition

open Text

/-- The conditions joined by an operator, nested to the right. -/
def chain (join : Condition → Condition → Condition) : List Condition → Condition
  | [] => .malformed ""
  | [only] => only
  | first :: rest => join first (chain join rest)

/-- Reads one comparison.  The literal loses the blanks around it and then the quotes at both of
its ends. -/
def comparison (clause : List Char) : Condition :=
  let clause := trim clause
  let failed := Condition.malformed (String.ofList clause)
  match cut? '=' clause with
  | none => failed
  | some (field, literal) =>
      match cut? '.' (trim field) with
      | none => failed
      | some (table, column) =>
          if table.isEmpty || column.isEmpty then failed
          else .equals (String.ofList table) (String.ofList column)
            (String.ofList (strip (· == '\'') (trim literal)))

/-- Reads comparisons joined by `AND`. -/
def conjunction (segment : List Char) : Condition :=
  chain .and ((splitBy ['a', 'n', 'd'] segment).map comparison)

/-- Reads a condition. -/
def parse (text : String) : Except Failure Condition :=
  let text := trim text.toList
  if text.isEmpty then .error (.unreadable .emptyCondition)
  else .ok (chain .or ((splitBy ['o', 'r'] text).map conjunction))

end SheetStore.Condition
