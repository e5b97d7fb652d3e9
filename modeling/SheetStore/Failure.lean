import SheetStore.Files.Path
import SheetStore.Files.Error
import SheetStore.Sheet

/-!
# Why a statement fails

A failure is the cause for which a statement is refused or could not be carried out.  The database
can go on after every failure.  `Failure.message` is the only place where failures are put into
words.
-/

namespace SheetStore

/-- Why a requested field is refused. -/
inductive FieldFault where
  /-- The field has no point between a table and a column. -/
  | notQualified
  /-- The table is none of those the statement reads. -/
  | tableNotListed
  /-- The table has no such column. -/
  | noSuchColumn
deriving DecidableEq, Repr

/-- The text of the fault. -/
def FieldFault.message : FieldFault → String
  | .notQualified => "expected table.column"
  | .tableNotListed => "table is not in the FROM list"
  | .noSuchColumn => "no such column in the table"

/-- Why a text cannot be read. -/
inductive ReadFault where
  /-- A condition is blank. -/
  | emptyCondition
  /-- A text is no sheet. -/
  | sheet (fault : SheetFault)
  /-- The file at the path is no sheet. -/
  | sheetFile (path : Path) (fault : SheetFault)
  /-- The file that counts the keys of a table does not hold a number. -/
  | keySequence (path : Path) (text : String)
deriving DecidableEq

/-- The text of the fault. -/
def ReadFault.message : ReadFault → String
  | .emptyCondition => "empty WHERE clause"
  | .sheet fault => fault.message
  | .sheetFile path fault => path.text ++ ": " ++ fault.message
  | .keySequence path text =>
      "pk sequence " ++ path.text ++ " holds " ++ Text.quote text ++ ", not a number"

/-- Why a statement fails. -/
inductive Failure where
  /-- The line is none of the statement forms. -/
  | notAStatement
  /-- The schema declares no such table. -/
  | unknownTable (table : String)
  /-- An insertion does not give one value per declared column. -/
  | wrongValueCount (expected got : Nat)
  /-- A requested field does not name a column of the tables that are read. -/
  | invalidField (field : String) (fault : FieldFault)
  /-- A value holds a comma, which a sheet cannot hold. -/
  | commaInValue
  /-- A value holds a line break, which would split its record. -/
  | lineBreakInValue
  /-- A file operation at the path failed. -/
  | storage (path : Path) (cause : FileError)
  /-- A text cannot be read. -/
  | unreadable (fault : ReadFault)
deriving DecidableEq

/-- The text of the failure. -/
def Failure.message : Failure → String
  | .notAStatement => "Incorrect command"
  | .unknownTable table => "incorrect table " ++ table
  | .wrongValueCount expected got =>
      "Incorrect number of columns: expected " ++ toString expected ++ ", got " ++ toString got
  | .invalidField field fault => "field " ++ field ++ " is not valid: " ++ fault.message
  | .commaInValue => "Values can't contain ',' symbol"
  | .lineBreakInValue => "Values can't contain line breaks"
  | .storage path cause => "storage I/O error on " ++ path.text ++ ": " ++ cause.message
  | .unreadable fault => "parse error: " ++ fault.message

end SheetStore
