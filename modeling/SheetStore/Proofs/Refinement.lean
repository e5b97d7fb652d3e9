import SheetStore.Proofs.Condition
import SheetStore.Proofs.Checks
import SheetStore.Proofs.Opening

/-!
# The files behave like a memory

A file tree *mirrors* a memory if it shows it (`Database.Shows`) and no next key is beyond the words
(`Database.Mirrors`).  From there every step that is no insertion answers as it does in memory, and
afterwards the files mirror the memory that the step leaves (`step_refines`).  An insertion does so
as long as the next key of its table is a word (`insert_refines`).  If it is none, the insertion is
refused and changes nothing (`insert_of_full`).

So a database behaves over any number of steps like a memory, as long as its next keys are words
(`runSteps_tracks`, `openAt_runSteps_eq_memory`).  Whatever its keys, it always shows some memory
(`Database.Reached.exists_mirrors`).
-/

namespace SheetStore

namespace Database

variable {db : Database} {files : FileTree} {m : Memory} {name : String} {t : Table}

/-- The files show the memory, and every next key is a word or follows a word. -/
structure Mirrors (db : Database) (files : FileTree) (m : Memory) : Prop where
  /-- The files show the memory. -/
  shows : db.Shows files m
  /-- No next key is larger than the first number that is no word. -/
  bounded : ∀ name, (m name).nextKey ≤ Text.wordBound

namespace Mirrors

variable (h : db.Mirrors files m) (ht : db.table? name = some t)

include h ht

theorem length_lt : (m name).pages.length < Text.wordBound :=
  (h.shows.valid ht).length_lt (h.bounded name)

theorem sheets_eq (hvalid : db.schema.validate = .ok ()) :
    t.sheets files = .ok (Sheet.numbered 1 (m name).pages) :=
  Table.sheets_eq (proper_of_table? hvalid ht) (h.shows.valid ht) (h.shows.holds ht)
    (h.length_lt ht)

theorem rows_eq (hvalid : db.schema.validate = .ok ()) :
    t.rows files = .ok ((m name).records.map t.row) :=
  Table.rows_eq (proper_of_table? hvalid ht) (h.shows.valid ht) (h.shows.holds ht)
    (h.length_lt ht)

theorem length_of_mem {r : Record} (hr : r ∈ (m name).records) :
    r.length = t.columns.length := by
  obtain ⟨page, hpage, hr⟩ := List.mem_flatten.1 hr
  exact ((h.shows.valid ht).fits page hpage r hr).2.1

end Mirrors

/-- New contents of one table. -/
theorem Shows.update {files' : FileTree} {c : Contents} (h : db.Shows files m)
    (ht : db.table? name = some t) (hholds : t.Holds files' c) (hv : c.Valid t.columns.length)
    (hsame : files.SameOutside t.dir files') : db.Shows files' (Function.update m name c) := by
  constructor
  · intro other u hu
    by_cases heq : other = name
    · subst heq
      rw [ht] at hu
      cases hu
      rw [Function.update_self]
      exact hholds
    · rw [Function.update_of_ne heq]
      exact (h.holds hu).congr fun p hp => hsame p (apart_of_ne hu ht heq hp)
  · intro other u hu
    by_cases heq : other = name
    · subst heq
      rw [ht] at hu
      cases hu
      rw [Function.update_self]
      exact hv
    · rw [Function.update_of_ne heq]
      exact h.valid hu

/-! ## Questions and changes -/

theorem reading_refines {R : FileTree → Memory → Prop} {q : FileTree → Except Failure α}
    {q' : Memory → Except Failure α} (h : ∀ files m, R files m → q files = q' m) :
    Refines R R (Storage.reading q) (Memory.asking q') := by
  intro files m hR
  rw [Storage.reading, Memory.asking, h files m hR]
  cases q' m with
  | ok a => exact ⟨rfl, hR⟩
  | error failure => exact ⟨rfl, hR⟩

/-- A change of one table that yields what the memory says. -/
theorem modify_refines {R : FileTree → Memory → Prop} {action : Storage α}
    {f : Memory → α × Contents} (ht : db.table? name = some t)
    (hR : ∀ files m, R files m → db.Mirrors files m)
    (h : ∀ files m, R files m → t.Yields action files (f m).1 (f m).2 ∧
      (f m).2.Valid t.columns.length ∧ (f m).2.nextKey ≤ Text.wordBound) :
    Refines R db.Mirrors action
      (modifyGet fun m => ((f m).1, Function.update m name (f m).2)) := by
  intro files m hfiles
  obtain ⟨⟨files', hrun, hholds, hsame⟩, hv, hbound⟩ := h files m hfiles
  obtain ⟨hshows, hbounded⟩ := hR files m hfiles
  rw [hrun]
  refine ⟨rfl, hshows.update ht hholds hv hsame, fun other => ?_⟩
  show (Function.update m name (f m).2 other).nextKey ≤ Text.wordBound
  by_cases heq : other = name
  · rw [heq, Function.update_self]
    exact hbound
  · rw [Function.update_of_ne heq]
    exact hbounded other

/-- An action on a table that is declared, or else refused. -/
theorem table_bind_refines {R S : FileTree → Memory → Prop} {act : Table → Storage α}
    {act' : Table → Memory.Action α} (hRS : ∀ files m, R files m → S files m)
    (h : ∀ t, db.table? name = some t → Refines R S (act t) (act' t)) :
    Refines R S (do act (← Storage.reading fun _ => db.table name))
      (do act' (← Memory.asking fun _ => db.table name)) := by
  cases ht : db.table? name with
  | some t =>
      have htable := table_of_table? ht
      simp only [htable]
      exact h t ht
  | none =>
      have htable := table_of_table?_none ht
      simp only [htable]
      intro files m hR
      exact ⟨rfl, hRS _ _ hR⟩

/-! ## Deletions -/

theorem delete_refines (db : Database) (name : String) :
    Refines db.Mirrors db.Mirrors (db.delete name) (Memory.delete db name) := by
  refine table_bind_refines (fun _ _ h => h) fun t ht => ?_
  refine modify_refines (f := fun _ => ((), Contents.initial)) ht (fun _ _ h => h) ?_
  intro files m h
  refine ⟨Table.clear_yields (dir_of_table? ht) (h.shows.holds ht), Contents.valid_initial _, ?_⟩
  show 1 ≤ Text.wordBound
  decide

theorem deleteWhere_refines (hvalid : db.schema.validate = .ok ()) (condition : Condition)
    (name : String) :
    Refines db.Mirrors db.Mirrors (db.deleteWhere name condition)
      (Memory.deleteWhere db condition name) := by
  rw [deleteWhere]
  simp only [Condition.admits_eq_holds]
  refine table_bind_refines (fun _ _ h => h) fun t ht => ?_
  refine modify_refines (f := fun m =>
    ((m name).records.countP fun r => condition.holds [name] (t.row r),
      (m name).deleteWhere fun r => condition.holds [name] (t.row r))) ht (fun _ _ h => h) ?_
  intro files m h
  have hv := h.shows.valid ht
  have hyields := Table.deleteWhere_yields (proper_of_table? hvalid ht) hv (h.shows.holds ht)
    (h.bounded name) (condition.holds [name])
  exact ⟨hyields, hv.deleteWhere _, h.bounded name⟩

theorem deleteEach_refines (db : Database) (names : List String) :
    Refines db.Mirrors db.Mirrors (Statement.deleteEach db names)
      (Memory.deleteEach db names) := by
  induction names with
  | nil => exact .pure ()
  | cons name rest ih =>
      rw [deleteEach_cons]
      exact (delete_refines db name).bind (fun _ _ h => h) fun _ => ih

theorem deleteWhereEach_refines (hvalid : db.schema.validate = .ok ()) (condition : Condition)
    (names : List String) :
    Refines db.Mirrors db.Mirrors (Statement.deleteWhereEach db condition names)
      (Memory.deleteWhereEach db condition names) := by
  induction names with
  | nil => exact .pure 0
  | cons name rest ih =>
      rw [deleteWhereEach_cons]
      refine (deleteWhere_refines hvalid condition name).bind (fun _ _ h => h) fun count => ?_
      exact ih.bind (fun _ _ h => h) fun later => .pure (count + later)

/-! ## Insertions -/

theorem insert_refines (hvalid : db.schema.validate = .ok ()) (name : String)
    (values : List String) :
    Refines (fun files m => db.Mirrors files m ∧ (m name).nextKey < Text.wordBound) db.Mirrors
      (db.insert name values) (Memory.insert db name values) := by
  rw [insert, Memory.insert]
  cases htable : db.insertionTable name values with
  | error failure => exact fun files m h => ⟨rfl, h.1⟩
  | ok t =>
      obtain ⟨ht, hrecord⟩ := of_insertionTable hvalid htable
      refine modify_refines (f := fun m =>
        ((m name).nextKey, (m name).insert db.schema.sheetLimit values)) ht (fun _ _ h => h.1) ?_
      rintro files m ⟨h, hkey⟩
      have hv := h.shows.valid ht
      have hyields := Table.insert_yields (proper_of_table? hvalid ht) hv (h.shows.holds ht) hkey
        db.schema.sheetLimit values
      exact ⟨hyields, hv.insert (Schema.sheetLimit_pos hvalid) (hrecord _), hkey⟩

/-- An insertion is refused if the next key is no word. -/
theorem insert_of_full (hvalid : db.schema.validate = .ok ()) (values : List String)
    (h : db.Mirrors files m) (hkey : ¬ (m name).nextKey < Text.wordBound) :
    ∃ failure, db.insert name values files = .error failure files := by
  rw [insert]
  cases htable : db.insertionTable name values with
  | error failure => exact ⟨failure, rfl⟩
  | ok t =>
      obtain ⟨ht, -⟩ := of_insertionTable hvalid htable
      have hnextKey : t.nextKey files = .error (.unreadable (.keySequence t.keyPath
          (toString (m name).nextKey))) := by
        have htext := FileTree.readText_of_get? (h.shows.holds ht).key
        simp only [Table.nextKey, htext, Text.signedWord?_trim_toString_of_not_lt hkey]
      exact ⟨_, show t.insert db.schema.sheetLimit values files = _ from
        bind_of_error (Storage.reading_of_error hnextKey)⟩

/-- An insertion that answers a key has done in files what it does in memory. -/
theorem Mirrors.of_insert (hvalid : db.schema.validate = .ok ()) (h : db.Mirrors files m)
    {values : List String} {key : Nat} {stored : FileTree}
    (hinsert : db.insert name values files = .ok key stored) :
    key = (m name).nextKey ∧ db.Mirrors stored
      (Function.update m name ((m name).insert db.schema.sheetLimit values)) := by
  by_cases hkey : (m name).nextKey < Text.wordBound
  · obtain ⟨hanswer, hmirrors⟩ := insert_refines hvalid name values files m ⟨h, hkey⟩
    rw [hinsert] at hanswer hmirrors
    obtain ⟨hnext, hstate⟩ := Memory.of_insert (eq_ok_of_answerOf hanswer.symm)
    rw [hstate] at hmirrors
    exact ⟨hnext, hmirrors⟩
  · obtain ⟨failure, hfails⟩ := insert_of_full hvalid values h hkey
    cases hinsert.symm.trans hfails

/-- An insertion that fails leaves the files that it found, as far as the memory goes. -/
theorem Mirrors.of_insert_error (hvalid : db.schema.validate = .ok ()) (h : db.Mirrors files m)
    {values : List String} {failure : Failure} {left : FileTree}
    (hinsert : db.insert name values files = .error failure left) : db.Mirrors left m := by
  by_cases hkey : (m name).nextKey < Text.wordBound
  · obtain ⟨hanswer, hmirrors⟩ := insert_refines hvalid name values files m ⟨h, hkey⟩
    rw [hinsert] at hanswer hmirrors
    rw [Memory.insert] at hanswer hmirrors
    cases htable : db.insertionTable name values with
    | error other =>
        rw [htable] at hmirrors
        exact hmirrors
    | ok t =>
        rw [htable] at hanswer
        cases hanswer
  · obtain ⟨other, hfails⟩ := insert_of_full hvalid values h hkey
    cases hinsert.symm.trans hfails
    exact h

/-! ## Statements -/

theorem select_eq (hvalid : db.schema.validate = .ok ()) (h : db.Mirrors files m)
    (fields names : List String) (condition : Option Condition) :
    db.select fields names condition files = Memory.select db fields names condition m := by
  rw [select, Memory.select]
  cases htables : db.tables names with
  | error failure => rfl
  | ok ts =>
      refine Query.select_eq_answer db.joinMode fields fun t ht => ?_
      exact h.rows_eq (table?_of_mem_tables htables ht) hvalid

/-- Statements that insert nothing answer as they do in memory. -/
theorem run_refines (hvalid : db.schema.validate = .ok ()) (statement : Statement)
    (hinsert : ∀ name values, statement ≠ .insert name values) :
    Refines db.Mirrors db.Mirrors (statement.run db) (Memory.run db statement) := by
  cases statement with
  | select fields tables text =>
      rw [Statement.run, Memory.run]
      simp only [Statement.locking, bind_assoc, pure_bind]
      refine (reading_refines fun _ _ _ => rfl).bind (fun _ _ h => h) fun condition => ?_
      refine (reading_refines fun _ _ _ => rfl).bind (fun _ _ h => h) fun _ => ?_
      refine (reading_refines fun _ _ h => ?_).bind (fun _ _ h => h) fun records => .pure _
      exact select_eq hvalid h fields tables condition
  | insert table values => exact absurd rfl (hinsert table values)
  | delete tables =>
      exact (deleteEach_refines db tables).bind (fun _ _ h => h) fun _ => .pure _
  | deleteWhere tables text =>
      refine (reading_refines fun _ _ _ => rfl).bind (fun _ _ h => h) fun condition => ?_
      exact (deleteWhereEach_refines hvalid condition tables).bind (fun _ _ h => h) fun _ => .pure _

/-! ## Steps -/

/-- A step that asks for an insertion is that insertion. -/
theorem step_of_insertion? {step : Step} {values : List String}
    (h : step.insertion? = some (name, values)) :
    db.step step = (fun key => some (.inserted key)) <$> db.insert name values := by
  cases step with
  | execute line =>
      rw [Step.insertion?] at h
      split at h
      · rename_i hparse
        cases h
        rw [Database.step, execute, hparse]
        show some <$> Statement.run db (.insert name values) = _
        rw [run_insert, Functor.map_map]
      · cases h
  | insert table values' =>
      cases h
      rfl
  | reopen => cases h

/-- Every step that is no insertion answers as it does in memory. -/
theorem step_refines (hvalid : db.schema.validate = .ok ()) {step : Step}
    (hinsert : step.insertion? = none) :
    Refines db.Mirrors db.Mirrors (db.step step) (Memory.step db step) := by
  cases step with
  | execute line =>
      rw [Database.step, Memory.step, execute]
      cases hparse : Statement.parse line with
      | error failure => exact fun files m h => ⟨rfl, h⟩
      | ok statement =>
          refine (run_refines hvalid statement ?_).map some
          rintro name values rfl
          rw [Step.insertion?, hparse] at hinsert
          cases hinsert
  | insert table values => cases hinsert
  | reopen =>
      intro files m h
      have hopen := open_of_shows hvalid h.shows
      rw [Database.step, bind_of_ok hopen]
      exact ⟨rfl, h⟩

/-! ## Runs -/

/-- The files mirror the memory, and every next key is a word. -/
structure Tracks (db : Database) (files : FileTree) (m : Memory) : Prop where
  /-- The files mirror the memory. -/
  mirrors : db.Mirrors files m
  /-- The next keys are words. -/
  words : ∀ name, (m name).nextKey < Text.wordBound

/-- The next keys stay words if the key that is given out fits. -/
theorem words_step {step : Step} (h : ∀ name, (m name).nextKey < Text.wordBound)
    (hfits : Answer.keyFits (answerOf (Memory.step db step m)) = true) :
    ∀ name, (stateOf (Memory.step db step m) name).nextKey < Text.wordBound := by
  cases hinsert : step.insertion? with
  | none =>
      refine Memory.step_keeps_of_insertion?_none (p := fun _ c => c.nextKey < Text.wordBound)
        (fun _ => ?_) (fun _ _ _ h => h) hinsert m h
      show 1 < Text.wordBound
      decide
  | some insertion =>
      obtain ⟨name, values⟩ := insertion
      rw [Memory.step_of_insertion? hinsert, answer_map] at hfits
      rw [Memory.step_of_insertion? hinsert, state_map]
      rw [Memory.insert] at hfits ⊢
      cases htable : db.insertionTable name values with
      | error failure => exact h
      | ok t =>
          rw [htable] at hfits
          have hnext : (m name).nextKey + 1 < Text.wordBound := of_decide_eq_true hfits
          intro other
          show (Function.update m name _ other).nextKey < Text.wordBound
          by_cases heq : other = name
          · rw [heq, Function.update_self]
            exact hnext
          · rw [Function.update_of_ne heq]
            exact h other

/-- As long as the next keys are words, every step answers as it does in memory. -/
theorem step_tracks (hvalid : db.schema.validate = .ok ()) (step : Step)
    (h : db.Tracks files m) :
    answerOf (db.step step files) = answerOf (Memory.step db step m) ∧
      (Answer.keyFits (answerOf (Memory.step db step m)) = true →
        db.Tracks (stateOf (db.step step files)) (stateOf (Memory.step db step m))) := by
  have hboth : answerOf (db.step step files) = answerOf (Memory.step db step m) ∧
      db.Mirrors (stateOf (db.step step files)) (stateOf (Memory.step db step m)) := by
    cases hinsert : step.insertion? with
    | none => exact step_refines hvalid hinsert files m h.mirrors
    | some insertion =>
        obtain ⟨name, values⟩ := insertion
        rw [step_of_insertion? hinsert, Memory.step_of_insertion? hinsert]
        exact ((insert_refines hvalid name values).map _) files m ⟨h.mirrors, h.words name⟩
  exact ⟨hboth.1, fun hfits => ⟨hboth.2, words_step h.words hfits⟩⟩

/-- A run answers as it does in memory if the keys in memory fit. -/
theorem runSteps_tracks (hvalid : db.schema.validate = .ok ()) (steps : List Step)
    (h : db.Tracks files m)
    (hfits : ∀ a ∈ (runSteps (Memory.step db) steps m).1, Answer.keyFits a = true) :
    (runSteps db.step steps files).1 = (runSteps (Memory.step db) steps m).1 ∧
      db.Tracks (runSteps db.step steps files).2 (runSteps (Memory.step db) steps m).2 :=
  runSteps_agrees (fun a => Answer.keyFits a = true)
    (fun step _ _ h => step_tracks hvalid step h) steps h hfits

/-- A run answers as it does in memory if the keys that it gives out fit. -/
theorem runSteps_tracks_of_fits (hvalid : db.schema.validate = .ok ()) (steps : List Step)
    (h : db.Tracks files m)
    (hfits : ∀ a ∈ (runSteps db.step steps files).1, Answer.keyFits a = true) :
    (runSteps db.step steps files).1 = (runSteps (Memory.step db) steps m).1 ∧
      db.Tracks (runSteps db.step steps files).2 (runSteps (Memory.step db) steps m).2 := by
  -- the answers are the same, so it does not matter on which side they fit
  have hstep : ∀ step m files, db.Tracks files m →
      answerOf (Memory.step db step m) = answerOf (db.step step files) ∧
        (Answer.keyFits (answerOf (db.step step files)) = true →
          db.Tracks (stateOf (db.step step files)) (stateOf (Memory.step db step m))) := by
    intro step m files h
    obtain ⟨hanswer, hnext⟩ := step_tracks hvalid step h
    rw [hanswer]
    exact ⟨rfl, hnext⟩
  obtain ⟨hanswers, hlast⟩ := runSteps_agrees (R := fun m files => db.Tracks files m)
    (fun a => Answer.keyFits a = true) hstep steps h hfits
  exact ⟨hanswers.symm, hlast⟩

/-- Whatever its keys, a step leaves files that mirror the memory after it, or before it if an
insertion was refused. -/
theorem exists_mirrors_step (hvalid : db.schema.validate = .ok ()) (step : Step)
    (h : db.Mirrors files m) : ∃ m', db.Mirrors (stateOf (db.step step files)) m' ∧
      (m' = stateOf (Memory.step db step m) ∨ m' = m) := by
  cases hinsert : step.insertion? with
  | none => exact ⟨_, (step_refines hvalid hinsert files m h).2, .inl rfl⟩
  | some insertion =>
      obtain ⟨name, values⟩ := insertion
      rw [step_of_insertion? hinsert, Memory.step_of_insertion? hinsert, state_map, state_map]
      by_cases hkey : (m name).nextKey < Text.wordBound
      · exact ⟨_, (insert_refines hvalid name values files m ⟨h, hkey⟩).2, .inl rfl⟩
      · obtain ⟨failure, hfails⟩ := insert_of_full hvalid values h hkey
        rw [hfails]
        exact ⟨m, h, .inr rfl⟩

/-- If the files mirror a memory with a property that the steps keep in memory, then so do the files
after the steps. -/
theorem exists_mirrors_runSteps (hvalid : db.schema.validate = .ok ()) {p : Memory → Prop}
    {steps : List Step} (hkeeps : ∀ step ∈ steps, Keeps p (Memory.step db step))
    (h : db.Mirrors files m) (hm : p m) :
    ∃ m', db.Mirrors (runSteps db.step steps files).2 m' ∧ p m' := by
  refine runSteps_keeps_of_mem (p := fun files => ∃ m, db.Mirrors files m ∧ p m) ?_ ⟨m, h, hm⟩
  rintro step hstep files ⟨m, h, hm⟩
  obtain ⟨m', hm', rfl | rfl⟩ := exists_mirrors_step hvalid step h
  · exact ⟨_, hm', hkeeps step hstep m hm⟩
  · exact ⟨_, hm', hm⟩

/-- A new database tracks a memory whose tables are new. -/
theorem open_tracks (db : Database) (hempty : db.root.EmptyIn files) :
    ∃ start, openAt db.root db.schema db.joinMode files = .ok db start ∧
      db.Tracks start Memory.initial := by
  obtain ⟨start, hopen, hshows⟩ := open_of_empty hempty
  have hwords : ∀ name, (Memory.initial name).nextKey < Text.wordBound := fun _ =>
    show 1 < Text.wordBound by decide
  exact ⟨start, hopen, ⟨hshows, fun name => Nat.le_of_lt (hwords name)⟩, hwords⟩

/-- The states of a database mirror a memory with every property of new tables that steps keep. -/
theorem Reached.exists_mirrors_with (hvalid : db.schema.validate = .ok ()) (h : db.Reached files)
    {p : Memory → Prop} (hinitial : p Memory.initial)
    (hkeeps : ∀ step, Keeps p (Memory.step db step)) : ∃ m, db.Mirrors files m ∧ p m := by
  obtain ⟨before, start, steps, hempty, hopen, rfl⟩ := h
  obtain ⟨start', hopen', hstart⟩ := open_tracks db hempty
  rw [hopen] at hopen'
  cases hopen'
  exact exists_mirrors_runSteps hvalid (fun step _ => hkeeps step) hstart.mirrors hinitial

/-- The states of a database show a memory. -/
theorem Reached.exists_mirrors (hvalid : db.schema.validate = .ok ()) (h : db.Reached files) :
    ∃ m, db.Mirrors files m := by
  obtain ⟨m, hm, -⟩ := h.exists_mirrors_with hvalid (p := fun _ => True) trivial
    fun _ _ _ => trivial
  exact ⟨m, hm⟩

/-- A database in an empty storage directory answers every run of steps as the memory does, as long
as its keys are words.  Afterwards each table has the sheets of its pages, numbered from one, with
the pages encoded in them, and the numeral of its next key. -/
theorem openAt_runSteps_eq_memory (hvalid : db.schema.validate = .ok ())
    (hempty : db.root.EmptyIn files) {steps : List Step} {answers : List Answer}
    (hrun : runSteps (Memory.step db) steps Memory.initial = (answers, m))
    (hfits : ∀ a ∈ answers, Answer.keyFits a = true) :
    ∃ start last, openAt db.root db.schema db.joinMode files = .ok db start ∧
      runSteps db.step steps start = (answers, last) ∧
      ∀ name t, db.table? name = some t →
        t.sheetNumbers last = .ok (List.range' 1 (m name).pages.length) ∧
          t.Holds last (m name) := by
  obtain ⟨start, hopen, hstart⟩ := open_tracks db hempty
  obtain ⟨hanswers, hlast⟩ := runSteps_tracks hvalid steps hstart (by rw [hrun]; exact hfits)
  rw [hrun] at hanswers hlast
  refine ⟨start, _, hopen, Prod.ext hanswers rfl, fun name t ht => ?_⟩
  have hholds := hlast.mirrors.shows.holds ht
  exact ⟨Table.sheetNumbers_eq hholds (hlast.mirrors.length_lt ht), hholds⟩

/-- Three insertions fill a sheet and start the next one, a deletion leaves both, and a statement on
a table that is not declared does nothing. -/
theorem sample_runSteps_eq_memory : ∃ start last,
    openAt sample.root sample.schema sample.joinMode FileTree.empty = .ok sample start ∧
      runSteps sample.step sampleSteps start = (sampleAnswers, last) ∧
      ∀ name t, sample.table? name = some t →
        t.sheetNumbers last = .ok (List.range' 1
            ((runSteps (Memory.step sample) sampleSteps Memory.initial).2 name).pages.length) ∧
          t.Holds last ((runSteps (Memory.step sample) sampleSteps Memory.initial).2 name) :=
  openAt_runSteps_eq_memory (by decide +kernel) (Path.emptyIn_empty "data")
    (Prod.ext (by decide +kernel) rfl) (by decide +kernel)

end Database

end SheetStore
