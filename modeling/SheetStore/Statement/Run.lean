import SheetStore.Database
import SheetStore.Statement.Parser
import SheetStore.Outcome
import SheetStore.Condition.Parser

/-!
# Running statements

A statement locks its tables while it works on them.  A selection or an insertion locks all of its
tables at once.  A deletion goes from table to table, locks each alone, and stops at the first that
fails; what it did before stays done.  A condition is read before anything is locked.
-/

namespace SheetStore

namespace Statement

/-- Locks tables for the rest of a statement, which fails if one of them is not known. -/
def locking (db : Database) (tables : List String) : Storage Unit := do
  let _ ← Storage.reading fun _ => db.lockPlan tables

/-- Empties tables one by one. -/
def deleteEach (db : Database) : List String → Storage Unit
  | [] => return ()
  | table :: rest => do
      locking db [table]
      db.delete table
      deleteEach db rest

/-- Removes rows from tables one by one and answers how many they were. -/
def deleteWhereEach (db : Database) (condition : Condition) : List String → Storage Nat
  | [] => return 0
  | table :: rest => do
      locking db [table]
      let count ← db.deleteWhere table condition
      return count + (← deleteWhereEach db condition rest)

/-- Reads the condition of a selection, if it has one. -/
def readCondition : Option String → Except Failure (Option Condition)
  | none => .ok none
  | some text => some <$> Condition.parse text

/-- Runs a statement. -/
def run (db : Database) : Statement → Storage Outcome
  | .select fields tables text => do
      let condition ← Storage.reading fun _ => readCondition text
      locking db tables
      return .rows fields (← Storage.reading (db.select fields tables condition))
  | .insert table values => do
      locking db [table]
      return .inserted (← db.insert table values)
  | .delete tables => do
      deleteEach db tables
      return .deleted
  | .deleteWhere tables text => do
      let condition ← Storage.reading fun _ => Condition.parse text
      return .deletedRows (← deleteWhereEach db condition tables)

end Statement

/-- Reads a statement and runs it. -/
def Database.execute (db : Database) (line : String) : Storage Outcome := do
  let statement ← Storage.reading fun _ => Statement.parse line
  statement.run db

end SheetStore
