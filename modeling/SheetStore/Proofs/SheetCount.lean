import SheetStore.Proofs.Modes
import SheetStore.Proofs.Keys
import SheetStore.Proofs.Table.Filling

/-!
# How many sheets a table has

No sheet is started while there is room on one.  As long as nothing is deleted from a table, the
records that are inserted into it fill the free places of its sheets in their order, and only those
that find none make new sheets (`Database.inserted_records_fill`).  Which records these are is read
from the answers: an insertion that is refused, or goes to another table, does not count.

A step that neither inserts into a table nor names it in a deletion leaves its contents
(`Memory.step_keeps_contents`), and one that inserts places one record (`Mirrors.step_places`).  So
a run places all of them one after another, and the pages are those of `Contents.placeAll`.
-/

namespace SheetStore

/-! ## What steps insert and delete -/

/-- The tables that the step names in a deletion. -/
def Step.deletedFrom : Step → List String
  | .execute line =>
      match Statement.parse line with
      | .ok (.delete tables) => tables
      | .ok (.deleteWhere tables _) => tables
      | _ => []
  | _ => []

/-- The record that a step with this answer has put into a table. -/
def insertedRecord (name : String) : Step × Answer → Option Record
  | (step, answer) =>
      match step.insertion?, answer with
      | some (table, values), .ok (some (.inserted key)) =>
          if table = name then some (keyedRecord key values) else none
      | _, _ => none

/-- The records that the steps of a log have put into a table. -/
def insertedRecords (name : String) (log : List (Step × Answer)) : List Record :=
  log.filterMap (insertedRecord name)

theorem insertedRecords_cons (name : String) (entry : Step × Answer)
    (log : List (Step × Answer)) : insertedRecords name (entry :: log)
      = (insertedRecord name entry).toList ++ insertedRecords name log := by
  rw [insertedRecords, List.filterMap_cons]
  cases insertedRecord name entry <;> rfl

namespace Memory

variable {db : Database} {name : String}

/-- A step that neither inserts nor deletes from a table leaves its contents. -/
theorem step_keeps_contents {step : Step} (hinsert : step.insertion? = none)
    (hdelete : name ∉ step.deletedFrom) (m : Memory) :
    stateOf (Memory.step db step m) name = m name := by
  cases step with
  | insert table values => cases hinsert
  | reopen => rfl
  | execute line =>
      rw [Memory.step]
      rw [Step.insertion?] at hinsert
      rw [Step.deletedFrom] at hdelete
      cases hparse : Statement.parse line with
      | error failure => rfl
      | ok statement =>
          rw [hparse] at hinsert hdelete
          show stateOf ((some <$> run db statement) m) name = _
          rw [state_map]
          cases statement with
          | select fields tables text => rw [stateOf_run_select]
          | insert table values => cases hinsert
          | delete tables => rw [stateOf_run_delete, stateOf_deleteEach_of_not_mem hdelete]
          | deleteWhere tables text =>
              cases hcondition : Condition.parse text with
              | error failure =>
                  rw [run, hcondition]
                  rfl
              | ok condition =>
                  have hstate : stateOf (run db (.deleteWhere tables text) m)
                      = stateOf (deleteWhereEach db condition tables m) := by
                    rw [run, hcondition]
                    exact state_map Outcome.deletedRows (deleteWhereEach db condition tables) m
                  rw [hstate, stateOf_deleteWhereEach_of_not_mem hdelete]

end Memory

namespace Database

variable {db : Database} {files : FileTree} {m : Memory} {name : String} {t : Table}

/-! ## One step and many -/

/-- A step that does not delete from a table places the record that it inserts, if any. -/
theorem Mirrors.step_places (hvalid : db.schema.validate = .ok ()) (h : db.Mirrors files m)
    {step : Step} (hstep : name ∉ step.deletedFrom) :
    ∃ m', db.Mirrors (stateOf (db.step step files)) m' ∧
      (m' name).pages = Contents.placeAll db.schema.sheetLimit (m name).pages
        (insertedRecord name (step, answerOf (db.step step files))).toList := by
  cases hinsert : step.insertion? with
  | none =>
      refine ⟨_, (step_refines hvalid hinsert files m h).2, ?_⟩
      rw [Memory.step_keeps_contents hinsert hstep]
      simp only [insertedRecord, hinsert]
      rfl
  | some insertion =>
      obtain ⟨table, values⟩ := insertion
      simp only [insertedRecord, hinsert]
      rw [step_of_insertion? hinsert, state_map, answer_map]
      cases hanswer : db.insert table values files with
      | error failure left => exact ⟨m, h.of_insert_error hvalid hanswer, rfl⟩
      | ok key stored =>
          obtain ⟨rfl, hmirrors⟩ := h.of_insert hvalid hanswer
          refine ⟨_, hmirrors, ?_⟩
          show (Function.update m table _ name).pages = Contents.placeAll _ _
            (if table = name then some (keyedRecord (m table).nextKey values) else none).toList
          by_cases heq : table = name
          · subst heq
            rw [Function.update_self, if_pos rfl]
            rfl
          · rw [Function.update_of_ne (Ne.symm heq), if_neg heq]
            rfl

theorem Mirrors.stepIn_places (hvalid : db.schema.validate = .ok ()) (h : db.Mirrors files m)
    {step : JoinMode × Step} (hstep : name ∉ step.2.deletedFrom) :
    ∃ m', db.Mirrors (stateOf (db.stepIn step files)) m' ∧
      (m' name).pages = Contents.placeAll db.schema.sheetLimit (m name).pages
        (insertedRecord name (step.2, answerOf (db.stepIn step files))).toList := by
  have hvalid' : (db.withMode step.1).schema.validate = .ok () := hvalid
  obtain ⟨m', hm', hpages⟩ := (h.withMode step.1).step_places hvalid' hstep
  exact ⟨m', hm'.of_withMode, hpages⟩

/-- Steps that do not delete from a table place the records that they insert one after another. -/
theorem Mirrors.steps_place (hvalid : db.schema.validate = .ok ()) (h : db.Mirrors files m)
    {steps : List (JoinMode × Step)} (hsteps : ∀ step ∈ steps, name ∉ step.2.deletedFrom) :
    ∃ m', db.Mirrors (runSteps db.stepIn steps files).2 m' ∧
      (m' name).pages = Contents.placeAll db.schema.sheetLimit (m name).pages
        (insertedRecords name ((steps.map Prod.snd).zip (runSteps db.stepIn steps files).1)) := by
  induction steps generalizing files m with
  | nil => exact ⟨m, h, rfl⟩
  | cons step rest ih =>
      rw [List.forall_mem_cons] at hsteps
      obtain ⟨m', hm', hfirst⟩ := h.stepIn_places hvalid hsteps.1
      obtain ⟨last, hlast, hrest⟩ := ih hm' hsteps.2
      refine ⟨last, hlast, ?_⟩
      rw [runSteps_cons, List.map_cons, List.zip_cons_cons, insertedRecords_cons,
        Contents.placeAll_append, hrest, hfirst]

/-! ## The sheets that insertions fill -/

/-- A table of a new database has one empty sheet. -/
theorem sheets_of_opened (hvalid : db.schema.validate = .ok ()) {before : FileTree}
    (hempty : db.root.EmptyIn before)
    (hopen : openAt db.root db.schema db.joinMode before = .ok db files)
    (ht : db.table? name = some t) : t.sheets files = .ok [(1, [])] := by
  obtain ⟨start, hstart, htracks⟩ := open_tracks db hempty
  rw [hopen] at hstart
  cases hstart
  exact htracks.mirrors.sheets_eq ht hvalid

/-- In every state, the records that steps insert into a table fill its sheets from the first on and
as many new ones as are needed, if no step deletes from the table.  From one empty sheet they make a
sheet for every full one and one for the rest. -/
theorem inserted_records_fill (hvalid : db.schema.validate = .ok ())
    (hreached : db.ReachedInModes files) (ht : db.table? name = some t)
    {steps : List (JoinMode × Step)} (hsteps : ∀ step ∈ steps, name ∉ step.2.deletedFrom)
    {answers : List Answer} {last : FileTree}
    (hrun : runSteps db.stepIn steps files = (answers, last)) :
    let limit := db.schema.sheetLimit
    let added := insertedRecords name ((steps.map Prod.snd).zip answers)
    ∃ pages pages', t.sheets files = .ok (Sheet.numbered 1 pages) ∧
      t.sheets last = .ok (Sheet.numbered 1 pages') ∧
      Contents.Extends limit pages added pages' ∧
      (t.sheets files = .ok [(1, [])] → ∀ q r, r < limit → 1 ≤ q →
        added.length = limit * q + r → pages'.length = if r = 0 then q else q + 1) := by
  intro limit added
  have hlimit : 0 < limit := Schema.sheetLimit_pos hvalid
  obtain ⟨m, hm, horder⟩ := hreached.reached.exists_mirrors_with hvalid
    (p := Memory.Everywhere fun _ c => c.InOrder limit) (fun _ => .initial)
    (Memory.step_keeps (fun _ => .initial) (fun _ _ values h => h.insert hlimit values)
      fun _ _ selects h => h.deleteWhere selects)
  obtain ⟨m', hm', hpages⟩ := hm.steps_place hvalid hsteps
  rw [hrun] at hm' hpages
  have hextends : Contents.Extends limit (m name).pages added (m' name).pages := by
    rw [hpages]
    exact Contents.extends_placeAll hlimit (horder name).room added
  refine ⟨_, _, hm.sheets_eq ht hvalid, hm'.sheets_eq ht hvalid, hextends, ?_⟩
  intro hfresh q r hr hq hcount
  rw [hm.sheets_eq ht hvalid, Except.ok.injEq] at hfresh
  have hpage : (m name).pages = [[]] := by
    rw [← Sheet.map_snd_numbered 1 (m name).pages, hfresh]
    rfl
  rw [hpage] at hextends
  exact hextends.length_of_fresh hr hq hcount

/-- Five beers make three sheets of two records in a new table.  Among them a brewer is inserted, an
insertion is refused and the database is opened in another mode. -/
theorem sample_inserted_records_fill :
    let steps : List (JoinMode × Step) := [(.joined, .insert "beer" ["Duvel", "Ale"]),
      (.joined, .execute "INSERT INTO beer VALUES ('Orval', 'Trappist')"),
      (.joined, .insert "brewer" ["Villers"]), (.joined, .insert "beer" ["Kriek"]),
      (.perTable, .reopen), (.perTable, .insert "beer" ["Kriek", "Lambic"]),
      (.perTable, .insert "beer" ["Chimay", "Trappist"]),
      (.perTable, .execute "INSERT INTO beer VALUES ('Gueuze', 'Lambic')")]
    ∃ pages, sampleBeer.sheets (runSteps sample.stepIn steps (stateOf
        (sample.ensure FileTree.empty))).2 = .ok (Sheet.numbered 1 pages) ∧ pages.length = 3 := by
  intro steps
  have hempty := Path.emptyIn_empty "data"
  have hreached : sample.ReachedInModes (stateOf (sample.ensure FileTree.empty)) :=
    ⟨_, _, [], hempty, openAt_sample, rfl⟩
  have hsteps : ∀ step ∈ steps, "beer" ∉ step.2.deletedFrom := by decide +kernel
  obtain ⟨_, pages, -, hsheets, -, hcount⟩ := inserted_records_fill validate_sample hreached
    table?_sample_beer hsteps Prod.mk.eta.symm
  have hfive : (insertedRecords "beer" ((steps.map Prod.snd).zip (runSteps sample.stepIn steps
      (stateOf (sample.ensure FileTree.empty))).1)).length = 2 * 2 + 1 := by
    decide +kernel
  have hfresh := sheets_of_opened validate_sample hempty openAt_sample table?_sample_beer
  exact ⟨pages, hsheets, hcount hfresh 2 1 (by decide) (by decide) hfive⟩

end Database

end SheetStore
