import SheetStore.Proofs.Steps
import SheetStore.Proofs.Query.Rows
import SheetStore.Proofs.Table.Contents

/-!
# A store in memory

`Memory` is what a database keeps, without files: the contents of each table.  The actions on it say
what a statement does to the contents.

* An insertion answers the next key and places the record (`Contents.insert`).
* A deletion makes the table new, and a conditional one filters its pages in their places.
* A selection is a function of the records, one page after the other (`Query.answer`).
* Opening the database again does nothing.

What refuses a statement before its tables are read is the same for files and in memory, since it
depends on the statement and the schema alone.  A failure can leave changes in memory too: a
deletion of several tables goes from table to table.
-/

namespace SheetStore

/-- The contents of every table. -/
abbrev Memory := String → Contents

namespace Memory

/-- An action on the contents of the tables. -/
abbrev Action := EStateM Failure Memory

/-- All tables are new. -/
def initial : Memory := fun _ => .initial

/-- A question about the contents. -/
def asking (question : Memory → Except Failure α) : Action α := fun m =>
  match question m with
  | .ok a => .ok a m
  | .error failure => .error failure m

theorem asking_bind {question : Memory → Except Failure α} {f : α → Action β} {m : Memory} {a : α}
    (h : question m = .ok a) : (asking question >>= f) m = f a m := by
  exact bind_of_ok (by simp only [asking, h])

/-- Inserts a row, and answers its key. -/
def insert (db : Database) (name : String) (values : List String) : Action Nat := do
  let _ ← asking fun _ => db.insertionTable name values
  modifyGet fun m =>
    ((m name).nextKey, Function.update m name ((m name).insert db.schema.sheetLimit values))

/-- An insertion that answers a key has placed the record of it. -/
theorem of_insert {db : Database} {name : String} {values : List String} {m m' : Memory} {key : Nat}
    (h : insert db name values m = .ok key m') : key = (m name).nextKey ∧
      m' = Function.update m name ((m name).insert db.schema.sheetLimit values) := by
  rw [insert] at h
  cases htable : db.insertionTable name values with
  | error failure =>
      rw [htable] at h
      cases h
  | ok t =>
      rw [htable] at h
      cases h
      exact ⟨rfl, rfl⟩

/-- Answers the requested fields of the rows that a condition selects. -/
def select (db : Database) (fields tables : List String) (condition : Option Condition)
    (m : Memory) : Except Failure (List Record) := do
  Query.answer db.joinMode (← db.tables tables) fields condition fun t =>
    (m t.name).records.map t.row

/-- Makes a table new. -/
def delete (db : Database) (name : String) : Action Unit := do
  let _ ← asking fun _ => db.table name
  modify fun m => Function.update m name .initial

/-- Makes tables new, up to the first that is not declared. -/
def deleteEach (db : Database) : List String → Action Unit
  | [] => return ()
  | name :: rest => do
      delete db name
      deleteEach db rest

/-- Removes the rows of a table that a condition selects, and answers how many they were. -/
def deleteWhere (db : Database) (condition : Condition) (name : String) : Action Nat := do
  let t ← asking fun _ => db.table name
  let selects : Record → Bool := fun r => condition.holds [name] (t.row r)
  modifyGet fun m =>
    ((m name).records.countP selects, Function.update m name ((m name).deleteWhere selects))

/-- Removes rows of tables, up to the first that is not declared. -/
def deleteWhereEach (db : Database) (condition : Condition) : List String → Action Nat
  | [] => return 0
  | name :: rest => do
      let count ← deleteWhere db condition name
      return count + (← deleteWhereEach db condition rest)

/-- Runs a statement. -/
def run (db : Database) : Statement → Action Outcome
  | .select fields tables text => do
      let condition ← asking fun _ => Statement.readCondition text
      let _ ← asking fun _ => db.lockPlan tables
      return .rows fields (← asking (select db fields tables condition))
  | .insert table values => return .inserted (← insert db table values)
  | .delete tables => do
      deleteEach db tables
      return .deleted
  | .deleteWhere tables text => do
      let condition ← asking fun _ => Condition.parse text
      return .deletedRows (← deleteWhereEach db condition tables)

/-- Takes a step. -/
def step (db : Database) : Step → Action (Option Outcome)
  | .execute line => do
      let statement ← asking fun _ => Statement.parse line
      some <$> run db statement
  | .insert table values => (fun key => some (.inserted key)) <$> insert db table values
  | .reopen => return none

/-! ## What steps keep -/

/-- Every table has contents with the property. -/
def Everywhere (p : String → Contents → Prop) (m : Memory) : Prop := ∀ name, p name (m name)

section Keeps

variable {db : Database} {p : String → Contents → Prop}

theorem asking_keeps {p : Memory → Prop} (question : Memory → Except Failure α) :
    Keeps p (asking question) := by
  intro m hm
  rw [asking]
  cases question m with
  | ok a => exact hm
  | error failure => exact hm

/-- New contents with the property for one table. -/
theorem modify_keeps {name : String} {f : Memory → α × Contents}
    (h : ∀ m, p name (m name) → p name (f m).2) :
    Keeps (Everywhere p)
      (modifyGet fun m => ((f m).1, Function.update m name (f m).2) : Action α) := by
  intro m hm other
  show p other (Function.update m name (f m).2 other)
  by_cases heq : other = name
  · subst heq
    rw [Function.update_self]
    exact h m (hm other)
  · rw [Function.update_of_ne heq]
    exact hm other

theorem insert_keeps (hinsert : ∀ name c values, p name c →
    p name (c.insert db.schema.sheetLimit values)) (name : String) (values : List String) :
    Keeps (Everywhere p) (insert db name values) :=
  (asking_keeps _).bind fun _ =>
    modify_keeps (f := fun m => ((m name).nextKey, (m name).insert db.schema.sheetLimit values))
      fun _ hm => hinsert name _ values hm

theorem delete_keeps (hinitial : ∀ name, p name .initial) (name : String) :
    Keeps (Everywhere p) (delete db name) :=
  (asking_keeps _).bind fun _ =>
    modify_keeps (f := fun _ => ((), Contents.initial)) fun _ _ => hinitial name

theorem deleteEach_keeps (hinitial : ∀ name, p name .initial) (names : List String) :
    Keeps (Everywhere p) (deleteEach db names) := by
  induction names with
  | nil => exact .pure ()
  | cons name rest ih => exact (delete_keeps hinitial name).bind fun _ => ih

theorem deleteWhere_keeps (hdelete : ∀ name c selects, p name c → p name (c.deleteWhere selects))
    (condition : Condition) (name : String) :
    Keeps (Everywhere p) (deleteWhere db condition name) :=
  (asking_keeps _).bind fun t =>
    modify_keeps (f := fun m =>
      ((m name).records.countP fun r => condition.holds [name] (t.row r),
        (m name).deleteWhere fun r => condition.holds [name] (t.row r)))
      fun _ hm => hdelete name _ _ hm

theorem deleteWhereEach_keeps
    (hdelete : ∀ name c selects, p name c → p name (c.deleteWhere selects))
    (condition : Condition) (names : List String) :
    Keeps (Everywhere p) (deleteWhereEach db condition names) := by
  induction names with
  | nil => exact .pure 0
  | cons name rest ih =>
      exact (deleteWhere_keeps hdelete condition name).bind fun _ => ih.bind fun _ => .pure _

/-- A selection leaves the memory. -/
theorem stateOf_run_select (fields tables : List String) (text : Option String) (m : Memory) :
    stateOf (run db (.select fields tables text) m) = m := by
  have hkeeps : Keeps (fun s : Memory => s = m) (run db (.select fields tables text)) :=
    (asking_keeps _).bind fun _ => (asking_keeps _).bind fun _ =>
      (asking_keeps _).bind fun _ => .pure _
  exact hkeeps m rfl

theorem stateOf_run_delete (tables : List String) (m : Memory) :
    stateOf (run db (.delete tables) m) = stateOf (deleteEach db tables m) :=
  state_map (fun _ => Outcome.deleted) (deleteEach db tables) m

/-- What new tables have and deletions keep, every statement but an insertion keeps. -/
theorem run_keeps (hinitial : ∀ name, p name .initial)
    (hdelete : ∀ name c selects, p name c → p name (c.deleteWhere selects))
    {statement : Statement} (hstatement : ∀ name values, statement ≠ .insert name values) :
    Keeps (Everywhere p) (run db statement) := by
  cases statement with
  | select fields tables text =>
      exact (asking_keeps _).bind fun _ => (asking_keeps _).bind fun _ =>
        (asking_keeps _).bind fun _ => .pure _
  | insert table values => exact absurd rfl (hstatement table values)
  | delete tables => exact (deleteEach_keeps hinitial tables).bind fun _ => .pure _
  | deleteWhere tables text =>
      exact (asking_keeps _).bind fun condition =>
        (deleteWhereEach_keeps hdelete condition tables).bind fun _ => .pure _

/-- A step that asks for an insertion is that insertion. -/
theorem step_of_insertion? {step : Step} {name : String} {values : List String}
    (h : step.insertion? = some (name, values)) :
    Memory.step db step = (fun key => some (.inserted key)) <$> insert db name values := by
  cases step with
  | execute line =>
      rw [Step.insertion?] at h
      split at h
      · rename_i hparse
        cases h
        rw [Memory.step, hparse]
        show some <$> run db (.insert name values) = _
        rw [run]
        simp only [map_eq_pure_bind, bind_assoc, pure_bind]
      · cases h
  | insert table values' =>
      cases h
      rfl
  | reopen => cases h

/-- A step that asks for no insertion keeps what new tables have and deletions keep. -/
theorem step_keeps_of_insertion?_none (hinitial : ∀ name, p name .initial)
    (hdelete : ∀ name c selects, p name c → p name (c.deleteWhere selects)) {step : Step}
    (hstep : step.insertion? = none) : Keeps (Everywhere p) (Memory.step db step) := by
  cases step with
  | execute line =>
      rw [Memory.step]
      cases hparse : Statement.parse line with
      | error failure => exact fun m hm => hm
      | ok statement =>
          refine (run_keeps hinitial hdelete ?_).map some
          rintro name values rfl
          rw [Step.insertion?, hparse] at hstep
          cases hstep
  | insert table values => cases hstep
  | reopen => exact .pure none

/-- What new tables have and both insertions and deletions keep, every step keeps. -/
theorem step_keeps (hinitial : ∀ name, p name .initial)
    (hinsert : ∀ name c values, p name c → p name (c.insert db.schema.sheetLimit values))
    (hdelete : ∀ name c selects, p name c → p name (c.deleteWhere selects)) (step : Step) :
    Keeps (Everywhere p) (Memory.step db step) := by
  cases hstep : step.insertion? with
  | none => exact step_keeps_of_insertion?_none hinitial hdelete hstep
  | some insertion =>
      rw [step_of_insertion? hstep]
      exact (insert_keeps hinsert insertion.1 insertion.2).map _

end Keeps

end Memory

end SheetStore
