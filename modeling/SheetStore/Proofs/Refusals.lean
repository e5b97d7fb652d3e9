import SheetStore.Proofs.Opening
import SheetStore.Proofs.Table.Failures

/-!
# Statements that are refused

A statement that fails for any other reason than a file operation changes nothing, as long as it
works on one table: whatever refuses it is found before the first write.  A deletion goes from table
to table, so it can be refused when it is through with some of them.  Then it leaves what it leaves
on these tables alone, and the table where it stopped refuses it alone for the same reason
(`exists_stop`, `execute_refused_keeps`).

A sheet that cannot be read refuses every deletion of rows from its table and every insertion that
meets it, and a key sequence that cannot be read refuses every insertion.  A deletion does not ask
for the next key, so to it the key sequence may hold anything (`sample_unread_keySequence`).
-/

namespace SheetStore

open Storage

namespace Statement

/-- The tables that a deletion goes through. -/
def deletedTables : Statement → List String
  | .delete tables => tables
  | .deleteWhere tables _ => tables
  | _ => []

/-- The same deletion on other tables. -/
def onTables (tables : List String) : Statement → Statement
  | .delete _ => .delete tables
  | .deleteWhere _ condition => .deleteWhere tables condition
  | statement => statement

end Statement

namespace Database

variable {db : Database} {files after : FileTree} {t : Table} {name line : String}
  {failure : Failure}

/-! ## Work on one table -/

theorem insert_whole (db : Database) (name : String) (values : List String) :
    Whole (db.insert name values) :=
  .reading_bind fun t => t.insert_whole db.schema.sheetLimit values

theorem delete_whole (db : Database) (name : String) : Whole (db.delete name) :=
  .reading_bind fun t => .of_failsOnly (t.clear_writeFault.mono fun _ h => h.isStorage)

theorem deleteWhere_whole (db : Database) (condition : Condition) (name : String) :
    Whole (db.deleteWhere name condition) :=
  .reading_bind fun t => t.deleteWhere_whole _

theorem select_whole (db : Database) (fields tables : List String) (text : Option String) :
    Whole (Statement.run db (.select fields tables text)) := by
  rw [Statement.run]
  simp only [Statement.locking, bind_assoc, pure_bind]
  exact .reading_bind fun condition => .reading_bind fun _ => .reading_bind fun records =>
    .of_failsOnly (.pure _)

/-! ## Work on one table after the other -/

/-- A loop over tables that is refused has done the tables before the one that refuses it, which
refuses it alone too. -/
theorem exists_stop (loop : List String → Storage β) (combine : α → β → β)
    {work : String → Storage α} {start : β} (hnil : loop [] = pure start)
    (hcons : ∀ name rest, loop (name :: rest) = (do
      let a ← work name
      return combine a (← loop rest)))
    (hwork : ∀ name, Whole (work name)) {tables : List String}
    (h : loop tables files = .error failure after) (hfailure : failure.isStorage = false) :
    ∃ done name rest, tables = done ++ name :: rest ∧ (done = [] → after = files) ∧
      (∃ b, loop done files = .ok b after) ∧ loop [name] after = .error failure after := by
  induction tables generalizing files with
  | nil =>
      rw [hnil] at h
      cases h
  | cons name rest ih =>
      rw [hcons] at h
      rcases of_bind_eq_error h with hfirst | ⟨a, left, hfirst, hrest⟩
      · obtain rfl := hwork name _ _ _ hfirst hfailure
        refine ⟨[], name, rest, rfl, fun _ => rfl, ⟨start, by rw [hnil]; rfl⟩, ?_⟩
        rw [hcons, bind_of_error hfirst]
      · rcases of_bind_eq_error hrest with hrest | ⟨b, last, -, hpure⟩
        · obtain ⟨done, other, back, rfl, -, ⟨b, hdone⟩, hstop⟩ := ih hrest
          refine ⟨name :: done, other, back, rfl, nofun, ⟨combine a b, ?_⟩, hstop⟩
          rw [hcons, bind_of_ok hfirst, bind_of_ok hdone]
          rfl
        · cases hpure

/-- A deletion that is refused has done the tables before the one that refuses it, and a condition
that cannot be read refuses it before any table. -/
theorem run_stops {statement : Statement} (hsome : statement.deletedTables ≠ [])
    (h : statement.run db files = .error failure after) (hfailure : failure.isStorage = false) :
    ∃ done name rest, statement.deletedTables = done ++ name :: rest ∧
      (done = [] → after = files) ∧
      (done ≠ [] → ∃ outcome, (statement.onTables done).run db files = .ok outcome after) ∧
      (statement.onTables [name]).run db after = .error failure after := by
  cases statement with
  | select => exact absurd rfl hsome
  | insert => exact absurd rfl hsome
  | delete tables =>
      rcases of_bind_eq_error h with hfails | ⟨_, _, -, hpure⟩
      · obtain ⟨done, name, rest, htables, hnone, ⟨_, hdone⟩, hstop⟩ :=
          exists_stop (Statement.deleteEach db) (fun _ b => b) rfl
            (fun name rest => by simp only [deleteEach_cons, bind_pure]) db.delete_whole hfails
            hfailure
        exact ⟨done, name, rest, htables, hnone, fun _ => ⟨_, bind_of_ok hdone⟩,
          bind_of_error hstop⟩
      · cases hpure
  | deleteWhere tables text =>
      rcases of_bind_eq_error h with hcondition | ⟨condition, left, hcondition, hrest⟩
      · obtain ⟨hread, rfl⟩ := of_reading_error hcondition
        obtain ⟨name, rest, htables⟩ := List.exists_cons_of_ne_nil hsome
        exact ⟨[], name, rest, htables, fun _ => rfl, fun hdone => absurd rfl hdone,
          bind_of_error (reading_of_error hread)⟩
      · obtain ⟨hread, rfl⟩ := of_reading_ok hcondition
        rcases of_bind_eq_error hrest with hfails | ⟨_, _, -, hpure⟩
        · obtain ⟨done, name, rest, htables, hnone, ⟨count, hdone⟩, hstop⟩ :=
            exists_stop (Statement.deleteWhereEach db condition) (· + ·) rfl
            (deleteWhereEach_cons db condition) (db.deleteWhere_whole condition) hfails hfailure
          refine ⟨done, name, rest, htables, hnone, fun _ => ⟨.deletedRows count, ?_⟩, ?_⟩
          · exact (bind_of_ok (reading_of_ok hread)).trans (bind_of_ok hdone)
          · exact (bind_of_ok (reading_of_ok hread)).trans (bind_of_error hstop)
        · cases hpure

/-- A statement on at most one table is whole. -/
theorem run_whole {statement : Statement} (hfew : statement.deletedTables.length < 2) :
    Whole (statement.run db) := by
  intro files failure after h hfailure
  have hsingle (hsome : statement.deletedTables ≠ []) : after = files := by
    obtain ⟨done, name, rest, htables, hnone, -⟩ := run_stops hsome h hfailure
    rw [htables, List.length_append, List.length_cons] at hfew
    exact hnone (List.length_eq_zero_iff.1 (by omega))
  cases statement with
  | select fields tables text => exact select_whole db fields tables text files _ _ h hfailure
  | insert table values =>
      rw [run_insert, map_eq_pure_bind] at h
      exact (insert_whole db table values).bind (fun _ => .pure _) files _ _ h hfailure
  | delete tables =>
      cases tables with
      | nil => cases h
      | cons => exact hsingle (List.cons_ne_nil _ _)
  | deleteWhere tables text =>
      cases tables with
      | nil =>
          rcases of_bind_eq_error h with hcondition | ⟨_, _, -, hpure⟩
          · exact (of_reading_error hcondition).2
          · cases hpure
      | cons => exact hsingle (List.cons_ne_nil _ _)

/-! ## Files that cannot be read -/

/-- A deletion of rows in another table changes nothing here. -/
theorem deleteWhere_apart (ht : db.table? t.name = some t) (hne : t.name ≠ name)
    (condition : Condition) {p : Path} (hp : t.dir.holds p = true) :
    (stateOf (db.deleteWhere name condition files)).get? p = files.get? p := by
  rw [deleteWhere]
  cases hu : db.table? name with
  | none => rw [table_of_table?_none hu]; rfl
  | some u =>
      rw [table_of_table? hu]
      exact u.deleteWhere_keeps_outside files _ files (FileTree.SameOutside.refl _ _) p
        (apart_of_ne ht hu hne hp)

theorem deleteWhere_of_unreadable {n : SheetNumber} (ht : db.table? t.name = some t)
    (hn : t.Unreadable n files) (condition : Condition) :
    ∃ failure, db.deleteWhere t.name condition files = .error failure files := by
  obtain ⟨failure, hsheets⟩ := hn.sheets
  exact ⟨failure, (bind_of_ok (reading_of_ok (table_of_table? ht))).trans
    (bind_of_error (reading_of_error hsheets))⟩

/-- A sheet that cannot be read stops a deletion of rows from its table, whatever other tables the
deletion goes through. -/
theorem deleteWhereEach_of_unreadable {n : SheetNumber} (ht : db.table? t.name = some t)
    (hn : t.Unreadable n files) (condition : Condition) {tables : List String}
    (hmem : t.name ∈ tables) :
    ∃ failure after, Statement.deleteWhereEach db condition tables files = .error failure after ∧
      ∀ p, t.dir.holds p = true → after.get? p = files.get? p := by
  induction tables generalizing files with
  | nil => cases hmem
  | cons name rest ih =>
      rw [deleteWhereEach_cons]
      by_cases hname : t.name = name
      · subst hname
        obtain ⟨failure, hfails⟩ := deleteWhere_of_unreadable ht hn condition
        exact ⟨failure, files, bind_of_error hfails, fun _ _ => rfl⟩
      · have hsame : ∀ p, t.dir.holds p = true →
            (stateOf (db.deleteWhere name condition files)).get? p = files.get? p :=
          fun p hp => deleteWhere_apart ht hname condition hp
        cases hrun : db.deleteWhere name condition files with
        | error failure after =>
            rw [hrun] at hsame
            exact ⟨failure, after, bind_of_error hrun, hsame⟩
        | ok count left =>
            rw [hrun] at hsame
            obtain ⟨failure, after, hfails, hlater⟩ :=
              ih (hn.congr hsame) ((List.mem_cons.1 hmem).resolve_left hname)
            refine ⟨failure, after, (bind_of_ok hrun).trans (bind_of_error hfails), fun p hp => ?_⟩
            rw [hlater p hp, hsame p hp]

theorem insert_of_obstructed (ht : db.table? t.name = some t)
    (hobstructed : t.Obstructed db.schema.sheetLimit files) (values : List String) :
    ∃ failure, db.insert t.name values files = .error failure files := by
  cases htable : db.insertionTable t.name values with
  | error failure => exact ⟨failure, bind_of_error (reading_of_error htable)⟩
  | ok u =>
      obtain rfl : t = u := Option.some.inj (ht.symm.trans (checks_of_insertionTable htable).1)
      obtain ⟨failure, hfails⟩ := hobstructed.insert values
      exact ⟨failure, (bind_of_ok (reading_of_ok htable)).trans hfails⟩

/-! ## Lines -/

/-- A line that is refused changes nothing, unless it deletes from several tables; then it changes
what the deletion from the tables before the one that refuses it changes.  A sheet that cannot be
read refuses every deletion of rows from its table, and an insertion is refused by what it looks at.
Neither changes the table. -/
theorem execute_refused_keeps (db : Database) (files : FileTree) (line : String) :
    (∀ failure after, db.execute line files = .error failure after → failure.isStorage = false →
      ((∀ statement, Statement.parse line = .ok statement → statement.deletedTables.length < 2) →
        after = files) ∧
      ∀ statement, Statement.parse line = .ok statement → 2 ≤ statement.deletedTables.length →
        ∃ done name rest, statement.deletedTables = done ++ name :: rest ∧
          (done = [] → after = files) ∧
          (done ≠ [] → ∃ outcome, (statement.onTables done).run db files = .ok outcome after) ∧
          (statement.onTables [name]).run db after = .error failure after) ∧
    ∀ t, db.table? t.name = some t →
      (∀ n tables text, t.Unreadable n files →
        Statement.parse line = .ok (.deleteWhere tables text) → t.name ∈ tables →
        ∃ failure after, db.execute line files = .error failure after ∧
          ∀ p, t.dir.holds p = true → after.get? p = files.get? p) ∧
      ∀ values, t.Obstructed db.schema.sheetLimit files →
        Statement.parse line = .ok (.insert t.name values) →
        ∃ failure, db.execute line files = .error failure files := by
  have hrun : ∀ {statement}, Statement.parse line = .ok statement →
      db.execute line files = statement.run db files := fun hparse =>
    bind_of_ok (reading_of_ok hparse)
  refine ⟨fun failure after h hfailure => ⟨fun hfew => ?_, fun statement hparse hmany => ?_⟩,
    fun t ht => ⟨fun n tables text hn hparse hmem => ?_, fun values hobstructed hparse => ?_⟩⟩
  · cases hparse : Statement.parse line with
    | error failure' =>
        cases (bind_of_error (reading_of_error hparse)).symm.trans h
        rfl
    | ok statement =>
        rw [hrun hparse] at h
        exact run_whole (hfew statement hparse) files failure after h hfailure
  · rw [hrun hparse] at h
    exact run_stops (List.ne_nil_of_length_pos (by omega)) h hfailure
  · rw [hrun hparse]
    cases hcondition : Condition.parse text with
    | error failure =>
        exact ⟨failure, files, bind_of_error (reading_of_error hcondition), fun _ _ => rfl⟩
    | ok condition =>
        obtain ⟨failure, after, hfails, hsame⟩ :=
          deleteWhereEach_of_unreadable ht hn condition hmem
        exact ⟨failure, after, (bind_of_ok (reading_of_ok hcondition)).trans
          (bind_of_error hfails), hsame⟩
  · obtain ⟨failure, hfails⟩ := insert_of_obstructed ht hobstructed values
    rw [hrun hparse, run_insert, map_eq_pure_bind]
    exact ⟨failure, bind_of_error hfails⟩

/-- A deletion from two tables, of which the second is not declared, leaves what the deletion from
the first leaves. -/
theorem sample_execute_refused_keeps :
    let files := stateOf (sample.insert "beer" ["Duvel", "Ale"]
      (stateOf (sample.ensure FileTree.empty)))
    let result := sample.execute "DELETE FROM beer, wine WHERE beer.name = 'Duvel'" files
    answerOf result = .error (.unknownTable "wine") ∧
      ∃ outcome, Statement.run sample (.deleteWhere ["beer"] "beer.name = 'Duvel'") files
        = .ok outcome (stateOf result) := by
  intro files result
  have hresult : answerOf result = .error (.unknownTable "wine") := by decide +kernel
  have hparse : Statement.parse "DELETE FROM beer, wine WHERE beer.name = 'Duvel'"
      = .ok (.deleteWhere ["beer", "wine"] "beer.name = 'Duvel'") := by decide +kernel
  have hfirst : answerOf (Statement.run sample (.deleteWhere ["beer"] "beer.name = 'Duvel'") files)
      = .ok (.deletedRows 1) := by decide +kernel
  refine ⟨hresult, ?_⟩
  obtain ⟨done, name, rest, htables, hnone, hdone, hstop⟩ :=
    ((execute_refused_keeps sample files _).1 _ _ (eq_error_of_answerOf hresult) rfl).2 _ hparse
      (by decide)
  cases done with
  | nil =>
      cases htables
      rw [hnone rfl] at hstop
      cases (eq_ok_of_answerOf hfirst).symm.trans hstop
  | cons first done =>
      have hlen := congrArg List.length htables
      simp only [Statement.deletedTables, List.length_append, List.length_cons,
        List.length_nil] at hlen
      obtain rfl : done = [] := List.length_eq_zero_iff.1 (by omega)
      cases htables
      exact hdone (List.cons_ne_nil _ _)

/-- A key sequence without a number does not refuse a deletion of rows. -/
theorem sample_unread_keySequence :
    let files := (stateOf (sample.insert "beer" ["Duvel", "Ale"]
      (stateOf (sample.ensure FileTree.empty)))).put sampleBeer.dir "beer_pk_sequence"
        (.file "x".toUTF8)
    sampleBeer.nextKey files = .error (.unreadable (.keySequence sampleBeer.keyPath "x")) ∧
      answerOf (sample.execute "DELETE FROM beer WHERE beer.name = 'Duvel'" files)
        = .ok (.deletedRows 1) := by
  decide +kernel

end Database

end SheetStore
