import SheetStore.Proofs.Checks
import SheetStore.Proofs.Messages
import SheetStore.Proofs.Table.Failures
import SheetStore.Proofs.Statement.Names

/-!
# What a failure shows

The message of a failure shows nothing as it is but names that the statement gives and paths of the
tables that it names (`run_showsOnly`).  This follows the statement from action to action: a table
that is not declared is shown by its name, a field that does not pass its check as it is requested,
and a file of a table by its path, whatever lies there.  What a file holds is not shown as it is.

The paths of a table of a valid schema are the storage directory with identifiers below it, so they
are on one line if the storage directory is (`oneLine_text_of_uses`).  Hence a statement in a line
fails with a message on one line (`oneLine_message_of_execute`).
-/

namespace SheetStore

open Storage Text

theorem Path.text_extend (p : Path) (more : String) : (p.extend more).text = p.text ++ more := by
  cases p with
  | base s => rfl
  | entry dir name => exact (String.append_assoc ..).symm

/-! ## Failures of queries -/

namespace Query

variable {mode : JoinMode} {tables : List Table} {fields : List String}
  {condition : Option Condition} {files : FileTree} {failure : Failure}

theorem of_checkField_error {field : String} (h : checkField tables field = .error failure) :
    ∃ fault, failure = .invalidField field fault := by
  rw [checkField] at h
  split at h
  · cases h
    exact ⟨_, rfl⟩
  · split at h
    · cases h
      exact ⟨_, rfl⟩
    · split at h
      · cases h
      · cases h
        exact ⟨_, rfl⟩

theorem of_checkFields_error (h : checkFields tables fields = .error failure) :
    ∃ field ∈ fields, ∃ fault, failure = .invalidField field fault := by
  induction fields with
  | nil => cases h
  | cons field rest ih =>
      rw [checkFields] at h
      rcases of_bind_error h with hfirst | ⟨_, -, hrest⟩
      · exact ⟨field, List.mem_cons_self, of_checkField_error hfirst⟩
      · obtain ⟨other, hother, hfault⟩ := ih hrest
        exact ⟨other, List.mem_cons_of_mem _ hother, hfault⟩

theorem fault_of_admittedSets {scope : List String}
    (h : admittedSets scope condition files tables = .error failure) :
    ∃ t ∈ tables, t.Fault failure := by
  induction tables with
  | nil => cases h
  | cons t rest ih =>
      rw [admittedSets] at h
      rcases of_bind_error h with hfirst | ⟨rows, -, h⟩
      · rw [admitted] at hfirst
        rcases of_bind_error hfirst with hrows | ⟨rows, -, hpure⟩
        · exact ⟨t, List.mem_cons_self, Table.fault_of_rows hrows⟩
        · cases condition <;> cases hpure
      · rcases of_bind_error h with hrest | ⟨sets, -, hpure⟩
        · obtain ⟨u, hu, hfault⟩ := ih hrest
          exact ⟨u, List.mem_cons_of_mem _ hu, hfault⟩
        · cases hpure

/-- A query fails at a field or at a table. -/
theorem of_select_error (h : select mode tables fields condition files = .error failure) :
    (∃ field ∈ fields, ∃ fault, failure = .invalidField field fault) ∨
      ∃ t ∈ tables, t.Fault failure := by
  rw [select] at h
  rcases of_bind_error h with hfields | ⟨_, -, h⟩
  · exact .inl (of_checkFields_error hfields)
  · rcases of_bind_error h with hjoined | ⟨rows, -, hpure⟩
    · rw [joinedRows] at hjoined
      rcases of_bind_error hjoined with hsets | ⟨sets, -, hpure⟩
      · exact .inr (fault_of_admittedSets hsets)
      · split at hpure <;> cases hpure
    · cases hpure

end Query

namespace Database

variable {db : Database} {names : List String} {name : String} {t : Table} {failure : Failure}

/-! ## Failures of statements -/

/-- All that the message of the failure shows as it is, is among the names or is a path of a table
that is named. -/
def ShowsOnly (db : Database) (names : List String) (failure : Failure) : Prop :=
  ∀ s ∈ failure.shown, s ∈ names ∨
    ∃ name ∈ names, ∃ t p, db.table? name = some t ∧ t.Uses p ∧ s = p.text

theorem showsOnly_of_nil (h : failure.shown = []) : db.ShowsOnly names failure := by
  rw [ShowsOnly, h]
  exact List.forall_mem_nil _

theorem showsOnly_unknownTable (hname : name ∈ names) : db.ShowsOnly names (.unknownTable name) :=
  List.forall_mem_singleton.2 (.inl hname)

theorem showsOnly_of_fault (hname : name ∈ names) (ht : db.table? name = some t)
    (h : t.Fault failure) : db.ShowsOnly names failure := by
  cases h with
  | storage hp cause => exact List.forall_mem_singleton.2 (.inr ⟨name, hname, t, _, ht, hp, rfl⟩)
  | sheetFile n fault =>
      exact List.forall_mem_singleton.2 (.inr ⟨name, hname, t, _, ht, .sheet n, rfl⟩)
  | keySequence text =>
      exact List.forall_mem_singleton.2 (.inr ⟨name, hname, t, _, ht, .key, rfl⟩)

theorem showsOnly_of_table (hname : name ∈ names) (h : db.table name = .error failure) :
    db.ShowsOnly names failure := by
  rw [table] at h
  split at h
  · cases h
  · cases h
    exact showsOnly_unknownTable hname

theorem showsOnly_of_tables {tables : List String} (htables : ∀ name ∈ tables, name ∈ names)
    (h : db.tables tables = .error failure) : db.ShowsOnly names failure := by
  induction tables with
  | nil => cases h
  | cons name rest ih =>
      rw [List.forall_mem_cons] at htables
      rw [tables] at h
      rcases of_bind_error h with hfirst | ⟨t, -, h⟩
      · exact showsOnly_of_table htables.1 hfirst
      · rcases of_bind_error h with hrest | ⟨ts, -, hpure⟩
        · exact ih htables.2 hrest
        · cases hpure

theorem showsOnly_of_checkValues {values : List String} (h : checkValues values = .error failure) :
    db.ShowsOnly names failure := by
  induction values with
  | nil => cases h
  | cons value rest ih =>
      simp only [checkValues] at h
      split at h
      · cases h
        exact showsOnly_of_nil rfl
      · split at h
        · cases h
          exact showsOnly_of_nil rfl
        · exact ih h

theorem showsOnly_of_insertionTable {values : List String} (hname : name ∈ names)
    (h : db.insertionTable name values = .error failure) : db.ShowsOnly names failure := by
  rw [insertionTable] at h
  rcases of_bind_error h with htable | ⟨t, -, h⟩
  · exact showsOnly_of_table hname htable
  · by_cases hlen : values.length ≠ t.columns.length - 1
    · simp only [if_pos hlen] at h
      cases h
      exact showsOnly_of_nil rfl
    · simp only [if_neg hlen] at h
      rcases of_bind_error h with hvalues | ⟨_, -, hpure⟩
      · exact showsOnly_of_checkValues hvalues
      · cases hpure

theorem locking_showsOnly {tables : List String} (htables : ∀ name ∈ tables, name ∈ names) :
    FailsOnly (db.ShowsOnly names) (Statement.locking db tables) := by
  refine FailsOnly.bind (.reading fun _ failure h => ?_) fun _ => .pure ()
  obtain ⟨table, rfl, hmem, -⟩ := lockPlan_error h
  exact showsOnly_unknownTable (htables table hmem)

theorem insert_showsOnly (hname : name ∈ names) (values : List String) :
    FailsOnly (db.ShowsOnly names) (db.insert name values) :=
  .reading_bind (fun _ _ h => showsOnly_of_insertionTable hname h) fun _ t h =>
    (t.insert_fault _ values).mono fun _ => showsOnly_of_fault hname (checks_of_insertionTable h).1

theorem delete_showsOnly (hname : name ∈ names) : FailsOnly (db.ShowsOnly names) (db.delete name) :=
  .reading_bind (fun _ _ h => showsOnly_of_table hname h) fun _ t h =>
    t.clear_fault.mono fun _ => showsOnly_of_fault hname (table?_of_table h)

theorem deleteWhere_showsOnly (hname : name ∈ names) (condition : Condition) :
    FailsOnly (db.ShowsOnly names) (db.deleteWhere name condition) :=
  .reading_bind (fun _ _ h => showsOnly_of_table hname h) fun _ t h =>
    (t.deleteWhere_fault _).mono fun _ => showsOnly_of_fault hname (table?_of_table h)

theorem showsOnly_of_select {fields tables : List String} {condition : Option Condition}
    {files : FileTree} (hfields : ∀ field ∈ fields, field ∈ names)
    (htables : ∀ name ∈ tables, name ∈ names)
    (h : db.select fields tables condition files = .error failure) :
    db.ShowsOnly names failure := by
  rw [select] at h
  rcases of_bind_error h with hfails | ⟨ts, hts, h⟩
  · exact showsOnly_of_tables htables hfails
  · rcases Query.of_select_error h with ⟨field, hfield, fault, rfl⟩ | ⟨t, ht, hfault⟩
    · exact List.forall_mem_singleton.2 (.inl (hfields field hfield))
    · have hname : t.name ∈ tables := map_name_of_tables hts ▸ List.mem_map_of_mem ht
      exact showsOnly_of_fault (htables _ hname) (table?_of_mem_tables hts ht) hfault

theorem showsOnly_of_parse {text : String} (h : Condition.parse text = .error failure) :
    db.ShowsOnly names failure := by
  rw [Condition.parse] at h
  split at h
  · cases h
    exact showsOnly_of_nil rfl
  · cases h

theorem deleteEach_showsOnly {tables : List String} (htables : ∀ name ∈ tables, name ∈ names) :
    FailsOnly (db.ShowsOnly names) (Statement.deleteEach db tables) := by
  induction tables with
  | nil => exact .pure ()
  | cons name rest ih =>
      rw [List.forall_mem_cons] at htables
      rw [deleteEach_cons]
      exact (delete_showsOnly htables.1).bind fun _ => ih htables.2

theorem deleteWhereEach_showsOnly (condition : Condition) {tables : List String}
    (htables : ∀ name ∈ tables, name ∈ names) :
    FailsOnly (db.ShowsOnly names) (Statement.deleteWhereEach db condition tables) := by
  induction tables with
  | nil => exact .pure 0
  | cons name rest ih =>
      rw [List.forall_mem_cons] at htables
      rw [deleteWhereEach_cons]
      exact (deleteWhere_showsOnly htables.1 condition).bind fun _ => (ih htables.2).bind fun _ =>
        .pure _

/-- A statement that fails shows names that it gives and paths of the tables that it names. -/
theorem run_showsOnly (db : Database) (statement : Statement) :
    FailsOnly (db.ShowsOnly statement.names) (statement.run db) := by
  cases statement with
  | select fields tables text =>
      have hcondition : ∀ failure, Statement.readCondition text = .error failure →
          db.ShowsOnly (fields ++ tables) failure := by
        intro failure h
        cases text with
        | none => cases h
        | some text =>
            rw [Statement.readCondition] at h
            cases hparse : Condition.parse text with
            | error fault =>
                rw [hparse] at h
                cases h
                exact showsOnly_of_parse hparse
            | ok condition =>
                rw [hparse] at h
                cases h
      exact (FailsOnly.reading fun _ => hcondition).bind fun condition =>
        (locking_showsOnly fun _ => List.mem_append_right _).bind fun _ =>
        (FailsOnly.reading fun _ _ => showsOnly_of_select (fun _ => List.mem_append_left _)
          fun _ => List.mem_append_right _).bind fun _ => .pure _
  | insert table values =>
      exact (locking_showsOnly fun _ h => h).bind fun _ =>
        (insert_showsOnly List.mem_cons_self values).bind fun _ => .pure _
  | delete tables => exact (deleteEach_showsOnly fun _ h => h).bind fun _ => .pure _
  | deleteWhere tables text =>
      exact (FailsOnly.reading fun _ _ => showsOnly_of_parse).bind fun condition =>
        (deleteWhereEach_showsOnly condition fun _ h => h).bind fun _ => .pure _

/-! ## Messages on one line -/

/-- The paths of a table are on one line if the storage directory is. -/
theorem oneLine_text_of_uses (hvalid : db.schema.validate = .ok ()) (hroot : OneLine db.root.text)
    (ht : db.table? name = some t) {p : Path} (h : t.Uses p) : OneLine p.text := by
  have hname : OneLine t.name := oneLine_of_isIdentifier (proper_of_table? hvalid ht).name
  have hdir : OneLine t.dir.text := by
    rw [dir_of_table? ht, ← name_of_table? ht]
    exact (((hroot.append (by decide)).append (oneLine_of_isIdentifier
      (Schema.isIdentifier_name hvalid))).append (by decide)).append hname
  induction h with
  | dir => exact hdir
  | sheet n => exact (hdir.append (by decide)).append ((oneLine_toString n).append (by decide))
  | key => exact (hdir.append (by decide)).append (hname.append (by decide))
  | temporary _ ih =>
      rw [temporary, Path.text_extend]
      exact ih.append (by decide)

/-- A statement in a line fails with a message on one line. -/
theorem oneLine_message_of_execute (hvalid : db.schema.validate = .ok ())
    (hroot : OneLine db.root.text) {line : String} (hline : OneLine line) {files after : FileTree}
    (h : db.execute line files = .error failure after) : OneLine failure.message := by
  apply Failure.oneLine_message
  rcases of_bind_eq_error h with hparse | ⟨statement, left, hparse, hrun⟩
  · obtain ⟨hparse, -⟩ := of_reading_error hparse
    rw [Statement.shown_of_parse hparse]
    exact List.forall_mem_nil _
  · intro s hs
    have hnames := Statement.not_mem_names_of_parse (of_reading_ok hparse).1 (c := '\n') (by decide)
      hline
    rcases run_showsOnly db statement left failure after hrun s hs with
      hs | ⟨name, -, t, p, ht, hp, rfl⟩
    · exact hnames s hs
    · exact oneLine_text_of_uses hvalid hroot ht hp

end Database

end SheetStore
