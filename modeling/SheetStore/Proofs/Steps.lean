import Mathlib.Data.List.Basic
import SheetStore.Statement.Run
import SheetStore.Proofs.Simulation

/-!
# Steps of a database

Over its life a database executes lines of the command language, takes insertions from a program,
and is opened again.  Each of these is a *step*, and a step has an *answer*: the outcome of a
statement, nothing if the database was opened, or the failure.  A failure does not end a run of
steps.

A storage directory is *empty* if it can be made, or is there, and has nothing in it
(`Path.EmptyIn`).  The states of a database are those that a run of steps leaves after the database
was opened in an empty storage directory (`Database.Reached`).  The keys that a file can count are
words; an answer *fits* if it does not exceed them (`Answer.keyFits`).
-/

namespace SheetStore

/-- Something that is done with a database. -/
inductive Step where
  /-- A line of the command language is executed. -/
  | execute (line : String)
  /-- A row of the values is inserted. -/
  | insert (table : String) (values : List String)
  /-- The database is opened again. -/
  | reopen
deriving DecidableEq, Repr, Inhabited

/-- The table and the values of an insertion, if the step asks for one. -/
def Step.insertion? : Step → Option (String × List String)
  | .execute line =>
      match Statement.parse line with
      | .ok (.insert table values) => some (table, values)
      | _ => none
  | .insert table values => some (table, values)
  | .reopen => none

/-- The answer of a step. -/
abbrev Answer := Except Failure (Option Outcome)

/-- Whether the key after the given one, if a key is given, is a word. -/
def Answer.keyFits : Answer → Bool
  | .ok (some (.inserted key)) => key + 1 < Text.wordBound
  | _ => true

/-- The directory can be made or is there, and nothing lies in it. -/
structure Path.EmptyIn (files : FileTree) (dir : Path) : Prop where
  /-- The directory is there, or nothing is in its way. -/
  makes : ∃ made, files.createDirAll dir = .ok made
  /-- There is nothing in it. -/
  nothing : ∀ p, dir.holds p = true → p ≠ dir → files.get? p = none

/-- In the tree with nothing but the bases, every base is empty. -/
theorem Path.emptyIn_empty (text : String) : (Path.base text).EmptyIn FileTree.empty where
  makes := ⟨FileTree.empty, rfl⟩
  nothing p hp hne := by
    cases p with
    | base other =>
        rw [Path.holds, beq_iff_eq] at hp
        exact absurd hp.symm hne
    | entry dir name => exact Std.ExtTreeMap.getElem?_empty

namespace Database

/-- Takes a step. -/
def step (db : Database) : Step → Storage (Option Outcome)
  | .execute line => some <$> db.execute line
  | .insert table values => (fun key => some (.inserted key)) <$> db.insert table values
  | .reopen => do
      let _ ← openAt db.root db.schema db.joinMode
      return none

/-- The file tree is left by a run of steps after the database was opened for the first time. -/
def Reached (db : Database) (files : FileTree) : Prop :=
  ∃ before start steps, db.root.EmptyIn before ∧
    openAt db.root db.schema db.joinMode before = .ok db start ∧
    files = (runSteps db.step steps start).2

/-- A small database for examples, with two tables and two records on a sheet. -/
def sample : Database where
  root := .base "data"
  schema := {
    name := "cellar"
    sheetLimit := 2
    tables := .ofList [("beer", ["name", "style"]), ("brewer", ["name"])] }
  joinMode := .joined

/-- One of its tables. -/
def sampleBeer : Table := ⟨"beer", sample.dir.entry "beer", ["beer_pk", "name", "style"]⟩

/-- The other one. -/
def sampleBrewer : Table := ⟨"brewer", sample.dir.entry "brewer", ["brewer_pk", "name"]⟩

theorem validate_sample : sample.schema.validate = .ok () := by decide +kernel

theorem table?_sample_beer : sample.table? "beer" = some sampleBeer := by decide +kernel

/-- It can be opened where nothing is. -/
theorem openAt_sample : openAt sample.root sample.schema sample.joinMode FileTree.empty
    = .ok sample (stateOf (sample.ensure FileTree.empty)) := by
  have hensure : answerOf (sample.ensure FileTree.empty) = .ok () := by decide +kernel
  exact bind_of_ok (eq_ok_of_answerOf hensure)

/-- Some steps of it. -/
def sampleSteps : List Step := [
  .insert "beer" ["Duvel", "Ale"],
  .insert "beer" ["Orval", "Trappist"],
  .reopen,
  .execute "INSERT INTO beer VALUES ('Kriek', 'Lambic')",
  .execute "DELETE FROM wine",
  .execute "DELETE FROM beer WHERE beer.style = 'Ale'",
  .execute "SELECT beer.name FROM beer"]

/-- The answers to these steps in a new database. -/
def sampleAnswers : List Answer := [
  .ok (some (.inserted 1)),
  .ok (some (.inserted 2)),
  .ok none,
  .ok (some (.inserted 3)),
  .error (.unknownTable "wine"),
  .ok (some (.deletedRows 1)),
  .ok (some (.rows ["beer.name"] [["Orval"], ["Kriek"]]))]

end Database

end SheetStore
