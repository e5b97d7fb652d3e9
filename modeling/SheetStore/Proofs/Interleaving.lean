import Mathlib.Logic.Function.Basic
import Mathlib.Logic.Relation
import SheetStore.Proofs.Checks

/-!
# Statements that run at the same time

A statement is a list of *phases* (`Phase`).  Each locks some tables, works on them and releases
them.  A selection and an insertion have one phase, a deletion has one for each of its tables.
`run_eq_runPhases` says that running a statement is running its phases one after the other.

A *worker* runs one statement (`Worker`).  It takes the locks of a phase one by one in the order of
the tables, and each of them only when no worker holds it, and it gives them back one by one.  So it
moves in small steps (`Move`), and the workers of a system take them in any order (`System.Step`).
What a phase does is one move, but the files may change at any time, so nothing depends on when the
other workers do their work.

A worker can go through to the end while no other holds a lock.  Then it has the answer of its
statement and leaves the files that the statement leaves (`run_alone`).
-/

namespace SheetStore

/-! ## Phases -/

/-- A part of a statement that runs under one set of locks. -/
structure Phase where
  /-- The tables to lock, as the statement lists them. -/
  tables : List String
  /-- What is done with them, given the outcome of the phases before. -/
  work : Outcome → Storage Outcome

/-- What a statement does once it has read its condition. -/
structure Plan where
  /-- Its phases in their order. -/
  phases : List Phase
  /-- The outcome before the first phase. -/
  start : Outcome

/-- The outcome with more rows removed. -/
def Outcome.addRows (count : Nat) : Outcome → Outcome
  | .deletedRows before => .deletedRows (before + count)
  | outcome => outcome

namespace Statement

variable {db : Database}

/-- The phase that empties a table. -/
def deletePhase (db : Database) (table : String) : Phase where
  tables := [table]
  work outcome := do
    db.delete table
    return outcome

/-- The phase that removes rows from a table. -/
def deleteWherePhase (db : Database) (condition : Condition) (table : String) : Phase where
  tables := [table]
  work outcome := do
    let count ← db.deleteWhere table condition
    return outcome.addRows count

/-- What a statement does, if its condition can be read. -/
def plan (db : Database) : Statement → Except Failure Plan
  | .select fields tables text => do
      let condition ← readCondition text
      let work : Storage Outcome := do
        return .rows fields (← Storage.reading (db.select fields tables condition))
      return ⟨[⟨tables, fun _ => work⟩], .rows fields []⟩
  | .insert table values =>
      let work : Storage Outcome := do
        return .inserted (← db.insert table values)
      return ⟨[⟨[table], fun _ => work⟩], .inserted 0⟩
  | .delete tables => return ⟨tables.map (deletePhase db), .deleted⟩
  | .deleteWhere tables text => do
      let condition ← Condition.parse text
      return ⟨tables.map (deleteWherePhase db condition), .deletedRows 0⟩

/-- Runs phases one after the other, each under its locks. -/
def runPhases (db : Database) : List Phase → Outcome → Storage Outcome
  | [], outcome => return outcome
  | phase :: rest, outcome => do
      locking db phase.tables
      runPhases db rest (← phase.work outcome)

theorem runPhases_single (phase : Phase) (outcome : Outcome) :
    runPhases db [phase] outcome = (do locking db phase.tables; phase.work outcome) := by
  simp only [runPhases, bind_pure]

theorem runPhases_delete (tables : List String) (outcome : Outcome) :
    runPhases db (tables.map (deletePhase db)) outcome
      = (do deleteEach db tables; return outcome) := by
  induction tables with
  | nil => rfl
  | cons table rest ih =>
      simp only [List.map_cons, runPhases, deletePhase, deleteEach, bind_assoc, pure_bind]
      simp only [ih]

theorem runPhases_deleteWhere (condition : Condition) (tables : List String) (before : Nat) :
    runPhases db (tables.map (deleteWherePhase db condition)) (.deletedRows before)
      = (do return .deletedRows (before + (← deleteWhereEach db condition tables))) := by
  induction tables generalizing before with
  | nil => rfl
  | cons table rest ih =>
      have hadd : ∀ count, (Outcome.deletedRows before).addRows count
          = .deletedRows (before + count) := fun _ => rfl
      simp only [List.map_cons, runPhases, deleteWherePhase, deleteWhereEach, bind_assoc, pure_bind,
        hadd]
      simp only [ih, Nat.add_assoc]

/-- What has nothing to do with the files makes no difference to them. -/
theorem reading_pure_bind (a : α) (f : α → Storage β) :
    (Storage.reading (fun _ => pure a) >>= f) = f a := rfl

theorem reading_bind_pure (question : Except Failure α) (g : α → β) (f : β → Storage γ) :
    (Storage.reading (fun _ => question >>= fun a => pure (g a)) >>= f)
      = (Storage.reading (fun _ => question) >>= fun a => f (g a)) := by
  cases question <;> rfl

/-- Running a statement is running its phases. -/
theorem run_eq_runPhases (db : Database) (statement : Statement) :
    statement.run db = (do
      let plan ← Storage.reading fun _ => statement.plan db
      runPhases db plan.phases plan.start) := by
  cases statement with
  | select fields tables text =>
      simp only [run, plan, reading_bind_pure, runPhases_single]
  | insert table values =>
      simp only [run, plan, reading_pure_bind, runPhases_single]
  | delete tables =>
      simp only [run, plan, reading_pure_bind, runPhases_delete]
  | deleteWhere tables text =>
      simp only [run, plan, reading_bind_pure, runPhases_deleteWhere, Nat.zero_add]

end Statement

/-! ## Workers -/

/-- Where a worker is in its statement. -/
inductive Worker where
  /-- Between two phases, with those that are left and the outcome so far. -/
  | ready (phases : List Phase) (outcome : Outcome)
  /-- In a phase, with the locks it holds and those it wants. -/
  | locking (held wanted : List String) (phase : Phase) (later : List Phase) (outcome : Outcome)
  /-- After a phase, with the locks it still holds and the result of its work. -/
  | releasing (held : List String) (result : Except Failure Outcome) (later : List Phase)
  /-- At the end. -/
  | done (answer : Except Failure Outcome)

namespace Worker

/-- The tables that the worker keeps locked. -/
def held : Worker → List String
  | .locking held _ _ _ _ => held
  | .releasing held _ _ => held
  | _ => []

/-- The table that the worker locks next. -/
def next? : Worker → Option String
  | .locking _ (table :: _) _ _ _ => some table
  | _ => none

/-- Whether the worker is through with its statement. -/
def isDone : Worker → Bool
  | .done _ => true
  | _ => false

/-- A worker at the start of a statement. -/
def start (db : Database) (statement : Statement) : Worker :=
  match statement.plan db with
  | .error failure => .done (.error failure)
  | .ok plan => .ready plan.phases plan.start

end Worker

open Worker in
/-- A worker takes a step, given which tables are locked by nobody and what is in the files. -/
inductive Move (db : Database) (free : String → Prop) (files : FileTree) :
    Worker → Worker → FileTree → Prop where
  /-- It has no phase left. -/
  | finish (outcome : Outcome) : Move db free files (ready [] outcome) (done (.ok outcome)) files
  /-- A table of the next phase is not known. -/
  | refuse {phase : Phase} {later : List Phase} {outcome : Outcome} {failure : Failure}
      (hplan : db.lockPlan phase.tables = .error failure) :
      Move db free files (ready (phase :: later) outcome) (done (.error failure)) files
  /-- It starts the next phase. -/
  | enter {phase : Phase} {later : List Phase} {outcome : Outcome} {order : List String}
      (hplan : db.lockPlan phase.tables = .ok order) :
      Move db free files (ready (phase :: later) outcome) (locking [] order phase later outcome)
        files
  /-- It locks a table. -/
  | acquire {held wanted : List String} {table : String} {phase : Phase} {later : List Phase}
      {outcome : Outcome} (hfree : free table) :
      Move db free files (locking held (table :: wanted) phase later outcome)
        (locking (held ++ [table]) wanted phase later outcome) files
  /-- It has all locks and does the work of the phase. -/
  | work (held : List String) (phase : Phase) (later : List Phase) (outcome : Outcome) :
      Move db free files (locking held [] phase later outcome)
        (releasing held (answerOf (phase.work outcome files)) later)
        (stateOf (phase.work outcome files))
  /-- It releases a table. -/
  | release (table : String) (held : List String) (result : Except Failure Outcome)
      (later : List Phase) :
      Move db free files (releasing (table :: held) result later) (releasing held result later)
        files
  /-- It goes on after a phase that succeeded. -/
  | goOn (outcome : Outcome) (later : List Phase) :
      Move db free files (releasing [] (.ok outcome) later) (ready later outcome) files
  /-- It stops after a phase that failed. -/
  | stop (failure : Failure) (later : List Phase) :
      Move db free files (releasing [] (.error failure) later) (done (.error failure)) files

/-! ## Systems -/

/-- Workers on the same files. -/
structure System (ι : Type) where
  /-- The files. -/
  files : FileTree
  /-- Where each worker is. -/
  workers : ι → Worker

namespace System

variable {ι : Type} {db : Database}

/-- Nobody keeps the table locked. -/
def Free (s : System ι) (table : String) : Prop := ∀ i, table ∉ (s.workers i).held

/-- A worker waits for another one, or for itself, if that one holds the table it locks next. -/
def WaitsFor (s : System ι) (i j : ι) : Prop :=
  ∃ table, (s.workers i).next? = some table ∧ table ∈ (s.workers j).held

/-- Every worker is at the start of its statement. -/
def start (db : Database) (statements : ι → Statement) (files : FileTree) : System ι where
  files := files
  workers i := Worker.start db (statements i)

variable [DecidableEq ι]

/-- Something happens in the system. -/
inductive Step (db : Database) : System ι → System ι → Prop where
  /-- A worker takes a step. -/
  | move {s : System ι} {i : ι} {worker : Worker} {files : FileTree}
      (hmove : Move db s.Free s.files (s.workers i) worker files) :
      Step db s ⟨files, Function.update s.workers i worker⟩
  /-- The files change, by a part of what another worker does or from outside. -/
  | disturb (s : System ι) (files : FileTree) : Step db s { s with files := files }

end System

/-! ## A worker that runs alone -/

theorem Database.eq_lockOrder_of_lockPlan {db : Database} {tables order : List String}
    (h : db.lockPlan tables = .ok order) : order = lockOrder tables :=
  (lockPlan_eq_ok_iff.1 h).2

section Alone

open Relation (ReflTransGen)

variable {ι : Type} [DecidableEq ι] {db : Database} {i : ι} {workers : ι → Worker}

theorem step_of_move {worker worker' : Worker} {files files' : FileTree}
    (h : Move db (System.mk files (Function.update workers i worker)).Free files worker worker'
      files') :
    System.Step db ⟨files, Function.update workers i worker⟩
      ⟨files', Function.update workers i worker'⟩ := by
  obtain ⟨s, hs⟩ : ∃ s : System ι, s = ⟨files, Function.update workers i worker⟩ := ⟨_, rfl⟩
  have hworker : s.workers i = worker := by
    rw [hs]
    exact Function.update_self ..
  have hfiles : s.files = files := by rw [hs]
  have hstep : System.Step db s ⟨files', Function.update s.workers i worker'⟩ :=
    .move (by rwa [hworker, hfiles, hs])
  rwa [hs, Function.update_idem] at hstep

variable (hothers : ∀ j, j ≠ i → (workers j).held = [])

include hothers

/-- Where no other holds a lock, all locks of a phase are taken. -/
theorem reaches_locked {held wanted : List String} (hnodup : (held ++ wanted).Nodup)
    (phase : Phase) (later : List Phase) (outcome : Outcome) (files : FileTree) :
    ReflTransGen (System.Step db)
      ⟨files, Function.update workers i (.locking held wanted phase later outcome)⟩
      ⟨files, Function.update workers i (.locking (held ++ wanted) [] phase later outcome)⟩ := by
  induction wanted generalizing held with
  | nil =>
      rw [List.append_nil]
  | cons table rest ih =>
      have hfree : table ∉ held := fun hmem =>
        List.disjoint_of_nodup_append hnodup hmem List.mem_cons_self
      rw [← List.singleton_append, ← List.append_assoc] at hnodup ⊢
      refine .head (step_of_move (.acquire fun j => ?_)) (ih hnodup)
      by_cases hj : j = i
      · simpa only [hj, Function.update_self, Worker.held] using hfree
      · simp only [Function.update_of_ne hj, hothers j hj, List.not_mem_nil, not_false_eq_true]

omit hothers in
/-- All locks of a phase are released. -/
theorem reaches_released (held : List String) (result : Except Failure Outcome)
    (later : List Phase) (files : FileTree) :
    ReflTransGen (System.Step db)
      ⟨files, Function.update workers i (.releasing held result later)⟩
      ⟨files, Function.update workers i (.releasing [] result later)⟩ := by
  induction held with
  | nil => exact .refl
  | cons table held ih => exact .head (step_of_move (.release table held result later)) ih

/-- Where no other holds a lock, a worker goes through its phases. -/
theorem reaches_done (phases : List Phase) (outcome : Outcome) (files : FileTree) :
    ReflTransGen (System.Step db) ⟨files, Function.update workers i (.ready phases outcome)⟩
      ⟨stateOf (Statement.runPhases db phases outcome files),
        Function.update workers i
          (.done (answerOf (Statement.runPhases db phases outcome files)))⟩ := by
  induction phases generalizing outcome files with
  | nil => exact .single (step_of_move (.finish outcome))
  | cons phase later ih =>
      rw [Statement.runPhases]
      cases hplan : db.lockPlan phase.tables with
      | error failure =>
          have hlocking : Statement.locking db phase.tables files = .error failure files :=
            bind_of_error (Storage.reading_of_error hplan)
          rw [bind_of_error hlocking]
          exact .single (step_of_move (.refuse hplan))
      | ok order =>
          have hlocking : Statement.locking db phase.tables files = .ok () files :=
            bind_of_ok (Storage.reading_of_ok hplan)
          have hnodup : ([] ++ order).Nodup := by
            rw [Database.eq_lockOrder_of_lockPlan hplan]
            exact nodup_lockOrder phase.tables
          -- up to the end of the phase
          have hphase := ((ReflTransGen.single (step_of_move (.enter hplan))).trans
            (reaches_locked hothers hnodup phase later outcome files)).trans
            (.head (step_of_move (.work order phase later outcome)) (reaches_released _ _ _ _))
          rw [bind_of_ok hlocking]
          refine hphase.trans ?_
          cases hwork : phase.work outcome files with
          | ok result files' =>
              rw [bind_of_ok hwork]
              exact .head (step_of_move (.goOn result later)) (ih result files')
          | error failure files' =>
              rw [bind_of_error hwork]
              exact .single (step_of_move (.stop failure later))

/-- Where no other holds a lock, a worker can go on to the answer of its statement, and leaves the
files that the statement leaves. -/
theorem run_alone (statement : Statement) (files : FileTree) :
    ReflTransGen (System.Step db) ⟨files, Function.update workers i (.start db statement)⟩
      ⟨stateOf (statement.run db files),
        Function.update workers i (.done (answerOf (statement.run db files)))⟩ := by
  rw [Worker.start, Statement.run_eq_runPhases]
  cases statement.plan db with
  | error failure => exact .refl
  | ok plan => exact reaches_done hothers plan.phases plan.start files

end Alone

end SheetStore
