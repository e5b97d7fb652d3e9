import SheetStore.Proofs.Refinement
import SheetStore.Proofs.Deletion

/-!
# Opening in another mode

A database may be opened again with another way to enforce conditions over several tables.  That way
has a part in what selections answer, but a selection changes nothing, so it has none in what a step
leaves (`stateOf_step_withMode`).  The states that are reached with changing modes are reached in a
single one (`ReachedInModes.reached`).
-/

namespace SheetStore

namespace Database

variable {db : Database} {files : FileTree}

/-- The same database in another mode. -/
def withMode (db : Database) (mode : JoinMode) : Database := { db with joinMode := mode }

/-- Takes a step in a mode. -/
def stepIn (db : Database) : JoinMode × Step → Storage (Option Outcome)
  | (mode, step) => (db.withMode mode).step step

/-- The file tree is left by steps in changing modes after the database was opened for the first
time. -/
def ReachedInModes (db : Database) (files : FileTree) : Prop :=
  ∃ before start steps, db.root.EmptyIn before ∧
    openAt db.root db.schema db.joinMode before = .ok db start ∧
    files = (runSteps db.stepIn steps start).2

theorem Mirrors.withMode {m : Memory} (h : db.Mirrors files m) (mode : JoinMode) :
    (db.withMode mode).Mirrors files m :=
  ⟨⟨h.shows.holds, h.shows.valid⟩, h.bounded⟩

theorem Mirrors.of_withMode {m : Memory} {mode : JoinMode}
    (h : (db.withMode mode).Mirrors files m) : db.Mirrors files m :=
  ⟨⟨h.shows.holds, h.shows.valid⟩, h.bounded⟩

theorem deleteEach_withMode (db : Database) (mode : JoinMode) (names : List String) :
    Statement.deleteEach (db.withMode mode) names = Statement.deleteEach db names := by
  induction names with
  | nil => rfl
  | cons name rest ih =>
      rw [Statement.deleteEach, Statement.deleteEach, ih]
      rfl

theorem deleteWhereEach_withMode (db : Database) (mode : JoinMode) (condition : Condition)
    (names : List String) : Statement.deleteWhereEach (db.withMode mode) condition names
      = Statement.deleteWhereEach db condition names := by
  induction names with
  | nil => rfl
  | cons name rest ih =>
      rw [Statement.deleteWhereEach, Statement.deleteWhereEach, ih]
      rfl

theorem stateOf_run_withMode (db : Database) (mode : JoinMode) (statement : Statement)
    (files : FileTree) :
    stateOf (statement.run (db.withMode mode) files) = stateOf (statement.run db files) := by
  cases statement with
  | select fields tables text => rw [stateOf_run_select, stateOf_run_select]
  | insert table values => rfl
  | delete tables => rw [Statement.run, Statement.run, deleteEach_withMode]
  | deleteWhere tables text =>
      rw [Statement.run, Statement.run]
      simp only [deleteWhereEach_withMode]

theorem ensure_withMode (db : Database) (mode : JoinMode) :
    (db.withMode mode).ensure = db.ensure := rfl

/-- Opening again makes what is missing, and nothing else is done to the files. -/
theorem stateOf_reopen (db : Database) (files : FileTree) :
    stateOf (db.step .reopen files) = stateOf (db.ensure files) := by
  have hreopen : db.step .reopen
      = (fun _ => none) <$> openAt db.root db.schema db.joinMode := by
    rw [Database.step, map_eq_pure_bind]
  rw [hreopen, state_map, stateOf_openAt]

/-- What a step leaves does not depend on the mode. -/
theorem stateOf_step_withMode (db : Database) (mode : JoinMode) (step : Step) (files : FileTree) :
    stateOf ((db.withMode mode).step step files) = stateOf (db.step step files) := by
  cases step with
  | execute line =>
      rw [Database.step, Database.step, state_map, state_map, execute, execute]
      cases hparse : Statement.parse line with
      | error failure => rfl
      | ok statement => exact stateOf_run_withMode db mode statement files
  | insert table values => rfl
  | reopen => rw [stateOf_reopen, stateOf_reopen, ensure_withMode]

theorem runSteps_stepIn (db : Database) (steps : List (JoinMode × Step)) (files : FileTree) :
    (runSteps db.stepIn steps files).2 = (runSteps db.step (steps.map Prod.snd) files).2 := by
  induction steps generalizing files with
  | nil => rfl
  | cons step rest ih =>
      rw [List.map_cons, runSteps_cons, runSteps_cons, ih, stepIn, stateOf_step_withMode]

/-- Changing the mode reaches no other state. -/
theorem ReachedInModes.reached (h : db.ReachedInModes files) : db.Reached files := by
  obtain ⟨before, start, steps, hempty, hopen, rfl⟩ := h
  exact ⟨before, start, steps.map Prod.snd, hempty, hopen, runSteps_stepIn db steps start⟩

end Database

end SheetStore
