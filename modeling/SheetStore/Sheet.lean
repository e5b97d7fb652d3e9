import SheetStore.Text.Pieces
import SheetStore.Text.Quoted

/-!
# Sheets

A table is stored in *sheets*, text files with one line per record.  The first line is the header,
the columns of the table joined by commas, and every later line holds the values of one record in
the order of the columns.

```
beer_pk,name,style
1,Duvel,Belgian Ale
2,Orval,Trappist
```

There is no quoting, so a value holds neither a comma nor a line feed.  `Sheet.encode` writes the
text of a sheet, every line with a line feed at its end.  `Sheet.decode` reads it back and checks
the header and the number of values on each line; it also takes lines that end with a carriage
return and a line feed, and a last line without any ending.
-/

namespace SheetStore

/-- The values of one row of a table, in the order of its columns. -/
abbrev Record := List String

/-- The records of one sheet, in the order of its lines. -/
abbrev Sheet := List Record

/-- Why a text is no sheet of a table. -/
inductive SheetFault where
  /-- The text is empty. -/
  | noHeader
  /-- The first line is not the header of the table. -/
  | wrongHeader (header : String) (columns : List String)
  /-- A line after the header is empty.  Rows count from one. -/
  | blankRow (row : Nat)
  /-- A line does not hold one value per column. -/
  | wrongWidth (row found expected : Nat)
deriving DecidableEq, Repr

/-- The text of the fault. -/
def SheetFault.message : SheetFault → String
  | .noHeader => "sheet has no header line"
  | .wrongHeader header columns =>
      "sheet header " ++ Text.quote header ++ " does not match columns " ++ Text.quoteList columns
  | .blankRow row => "sheet row " ++ toString row ++ " is blank"
  | .wrongWidth row found expected =>
      "sheet row " ++ toString row ++ " has " ++ toString found ++ " fields, expected "
        ++ toString expected

/-- The line of a record, with its line feed. -/
def Record.line (r : Record) : String := ",".intercalate r ++ "\n"

namespace Sheet

/-- The text of a sheet with the given columns. -/
def encode (columns : List String) (sheet : Sheet) : String :=
  Record.line columns ++ String.join (sheet.map Record.line)

/-- Reads the record on one line. -/
def decodeRow (width row : Nat) (line : String) : Except SheetFault Record :=
  let record := Text.fields ',' line
  if line.isEmpty then .error (.blankRow row)
  else if record.length ≠ width then .error (.wrongWidth row record.length width)
  else .ok record

/-- Reads the lines after the header, of which the first is the row of the given number. -/
def decodeRows (width row : Nat) : List String → Except SheetFault Sheet
  | [] => .ok []
  | line :: rest => do
      let record ← decodeRow width row line
      let records ← decodeRows width (row + 1) rest
      return record :: records

/-- Reads the text of a sheet with the given columns. -/
def decode (columns : List String) (text : String) : Except SheetFault Sheet :=
  match Text.lines text with
  | [] => .error .noHeader
  | header :: rows =>
      if Text.fields ',' header = columns then decodeRows columns.length 1 rows
      else .error (.wrongHeader header columns)

end Sheet

end SheetStore
