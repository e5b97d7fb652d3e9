import Mathlib.Algebra.BigOperators.Group.Finset.Basic
import SheetStore.Proofs.Refinement
import SheetStore.Proofs.Row

/-!
# Conditional deletion and selection

A conditional deletion goes from sheet to sheet and rewrites those that lose records.  A selection
reads all sheets, makes rows of their records and projects them.  Both choose the same records: what
a deletion removes from a table is what a selection of all its columns with the same condition
answers (`deleteWhere_removes_selected`).

The files follow from the contents of the tables (`Table.Holds.get?_eq`), so a table that keeps its
contents keeps its files.
-/

namespace SheetStore

open scoped BigOperators

/-- The selection of all columns of a table, with or without a condition. -/
def Statement.selectAll (t : Table) (text : Option String) : Statement :=
  .select t.fields [t.name] text

/-! ## Deletion and selection in memory -/

namespace Memory

variable {db : Database} {m : Memory}

/-- The records of a table that a condition selects. -/
def selects (db : Database) (condition : Condition) (name : String) (record : Record) : Bool :=
  match db.table? name with
  | some t => condition.holds [name] (t.row record)
  | none => false

/-- A selection from one table answers the fields of the records that the condition selects. -/
theorem select_single {t : Table} (ht : db.table? t.name = some t) {fields : List String}
    (hfields : Query.checkFields [t] fields = .ok ()) (condition : Option Condition) :
    select db fields [t.name] condition m
      = .ok (((m t.name).records.filter fun r => condition.all (selects db · t.name r)).map
          fun r => Query.project fields (t.row r)) := by
  have htables : db.tables [t.name] = .ok [t] := by
    rw [Database.tables, Database.table_of_table? ht]
    rfl
  have hmap : ∀ rs : List Record, (rs.map fun r => Query.project fields (t.row r))
      = (rs.map t.row).map (Query.project fields) := fun rs => by
    rw [List.map_map, Function.comp_def]
  rw [select, htables, hmap]
  show Query.answer db.joinMode [t] fields condition _ = _
  rw [Query.answer, hfields]
  cases condition with
  | none =>
      have hall : (m t.name).records.filter (fun r =>
          (none : Option Condition).all (selects db · t.name r)) = (m t.name).records :=
        List.filter_eq_self.2 fun _ _ => rfl
      rw [hall]
      rfl
  | some c =>
      have hfilter : ((m t.name).records.map t.row).filter (c.admits [t.name] t.name)
          = ((m t.name).records.filter (selects db c t.name)).map t.row := by
        rw [List.filter_map]
        refine congrArg (List.map t.row) (List.filter_congr fun r _ => ?_)
        rw [Function.comp_apply, Condition.admits_eq_holds, selects, ht]
      show Except.ok ((((m t.name).records.map t.row).filter (c.admits [t.name] t.name)).map
        (Query.project fields)) = _
      rw [hfilter]
      rfl

/-- The contents without the records that a condition selects in some tables. -/
def without (db : Database) (condition : Condition) (names : List String) (m : Memory) : Memory :=
  fun name =>
    if name ∈ names then (m name).deleteWhere (selects db condition name) else m name

theorem deleteWhere_eq {name : String} {t : Table} (ht : db.table? name = some t)
    (condition : Condition) (m : Memory) :
    deleteWhere db condition name m
      = .ok ((m name).records.countP (selects db condition name))
          (without db condition [name] m) := by
  have hselects : selects db condition name = fun r => condition.holds [name] (t.row r) := by
    funext r
    rw [selects, ht]
  have hwithout : without db condition [name] m
      = Function.update m name ((m name).deleteWhere (selects db condition name)) := by
    funext other
    by_cases heq : other = name
    · rw [heq, without, if_pos (List.mem_singleton_self name), Function.update_self]
    · rw [without, if_neg (mt List.mem_singleton.1 heq), Function.update_of_ne heq]
  rw [deleteWhere, Database.table_of_table? ht, hwithout, hselects]
  rfl

/-- It does not matter whether a table comes again. -/
theorem without_cons (db : Database) (condition : Condition) (name : String) (rest : List String)
    (m : Memory) :
    without db condition rest (without db condition [name] m)
      = without db condition (name :: rest) m := by
  funext other
  by_cases heq : other = name
  · subst heq
    simp [without, Contents.deleteWhere_deleteWhere]
  · simp [without, heq]

/-- A table that comes again has nothing left to count. -/
theorem sum_countP_cons (db : Database) (condition : Condition) (name : String)
    (rest : List String) (m : Memory) :
    (m name).records.countP (selects db condition name)
        + ∑ other ∈ rest.toFinset,
            (without db condition [name] m other).records.countP (selects db condition other)
      = ∑ other ∈ (name :: rest).toFinset,
          (m other).records.countP (selects db condition other) := by
  have hzero : (without db condition [name] m name).records.countP (selects db condition name)
      = 0 := by
    rw [without, if_pos (List.mem_singleton_self name), Contents.countP_deleteWhere]
  have herase : ∑ other ∈ rest.toFinset.erase name,
      (without db condition [name] m other).records.countP (selects db condition other)
        = ∑ other ∈ rest.toFinset,
            (without db condition [name] m other).records.countP (selects db condition other) :=
    Finset.sum_erase _ hzero
  rw [List.toFinset_cons, ← Finset.add_sum_erase _ _ (Finset.mem_insert_self name _),
    Finset.erase_insert_eq_erase, ← herase]
  refine congrArg _ (Finset.sum_congr rfl fun other hmem => ?_)
  rw [without, if_neg (mt List.mem_singleton.1 (Finset.ne_of_mem_erase hmem))]

/-- A deletion from declared tables removes from each of them what the condition selects, and counts
each of them once. -/
theorem deleteWhereEach_eq {names : List String}
    (hnames : ∀ name ∈ names, (db.table? name).isSome = true) (condition : Condition)
    (m : Memory) :
    deleteWhereEach db condition names m
      = .ok (∑ name ∈ names.toFinset, (m name).records.countP (selects db condition name))
          (without db condition names m) := by
  induction names generalizing m with
  | nil => rfl
  | cons name rest ih =>
      rw [List.forall_mem_cons] at hnames
      obtain ⟨t, ht⟩ := Option.isSome_iff_exists.1 hnames.1
      rw [deleteWhereEach, bind_of_ok (deleteWhere_eq ht condition m),
        bind_of_ok (ih hnames.2 _), ← sum_countP_cons, ← without_cons db condition name rest]
      rfl

/-- Whatever its tables, a conditional deletion removes what the condition selects from those up to
the first that is not declared. -/
theorem stateOf_deleteWhereEach (condition : Condition) (names : List String) (m : Memory) :
    stateOf (deleteWhereEach db condition names m)
      = without db condition (names.takeWhile fun name => (db.table? name).isSome) m := by
  induction names generalizing m with
  | nil => rfl
  | cons name rest ih =>
      cases ht : db.table? name with
      | none =>
          rw [deleteWhereEach, deleteWhere, Database.table_of_table?_none ht, List.takeWhile_cons, ht]
          rfl
      | some t =>
          have hlater : ∀ count m', stateOf ((do
              return count + (← deleteWhereEach db condition rest) : Action Nat) m')
                = stateOf (deleteWhereEach db condition rest m') := by
            intro count m'
            rw [← map_eq_pure_bind, state_map]
          rw [deleteWhereEach, bind_of_ok (deleteWhere_eq ht condition m), hlater, ih,
            without_cons, List.takeWhile_cons, ht]
          rfl

/-- A conditional deletion leaves the tables that it does not name. -/
theorem stateOf_deleteWhereEach_of_not_mem {names : List String} {name : String}
    (h : name ∉ names) (condition : Condition) (m : Memory) :
    stateOf (deleteWhereEach db condition names m) name = m name := by
  rw [stateOf_deleteWhereEach, without,
    if_neg fun hmem => h ((List.takeWhile_sublist _).subset hmem)]

theorem run_deleteWhere {names : List String}
    (hnames : ∀ name ∈ names, (db.table? name).isSome = true) {text : String}
    {condition : Condition} (htext : Condition.parse text = .ok condition) (m : Memory) :
    run db (.deleteWhere names text) m
      = .ok (.deletedRows (∑ name ∈ names.toFinset,
          (m name).records.countP (selects db condition name)))
        (without db condition names m) := by
  rw [run, asking_bind htext, bind_of_ok (deleteWhereEach_eq hnames condition m)]
  rfl

/-- What was removed is not counted again. -/
theorem sum_countP_without (db : Database) (condition : Condition) (names : List String)
    (m : Memory) : ∑ name ∈ names.toFinset,
      (without db condition names m name).records.countP (selects db condition name) = 0 := by
  refine Finset.sum_eq_zero fun name hname => ?_
  rw [without, if_pos (List.mem_toFinset.1 hname), Contents.countP_deleteWhere]

theorem nextKey_without (db : Database) (condition : Condition) (names : List String) (m : Memory)
    (name : String) : (without db condition names m name).nextKey = (m name).nextKey := by
  rw [without]
  split <;> rfl

end Memory

namespace Database

variable {db : Database} {files : FileTree} {m : Memory}

/-! ## Deletion and selection in files -/

/-- What a statement does in memory it does in files. -/
theorem exists_run_of_memory (hvalid : db.schema.validate = .ok ()) (h : db.Mirrors files m)
    {statement : Statement} (hinsert : ∀ name values, statement ≠ .insert name values)
    {outcome : Outcome} {m' : Memory} (hrun : Memory.run db statement m = .ok outcome m') :
    ∃ files', statement.run db files = .ok outcome files' ∧ db.Mirrors files' m' := by
  obtain ⟨hanswer, hmirrors⟩ := run_refines hvalid statement hinsert files m h
  rw [hrun] at hanswer hmirrors
  exact ⟨_, eq_ok_of_answerOf hanswer, hmirrors⟩

/-- A selection changes nothing. -/
theorem stateOf_run_select (db : Database) (fields tables : List String) (text : Option String)
    (files : FileTree) : stateOf ((Statement.select fields tables text).run db files) = files := by
  have hreading : ∀ {α : Type} (question : FileTree → Except Failure α),
      Keeps (fun s => s = files) (Storage.reading question) := by
    intro α question s hs
    rw [Storage.reading]
    cases question s <;> exact hs
  have hkeeps : Keeps (fun s => s = files) ((Statement.select fields tables text).run db) :=
    (hreading _).bind fun _ => ((hreading _).bind fun _ => .pure _).bind fun _ =>
      (hreading _).bind fun _ => .pure _
  exact hkeeps files rfl

/-- A selection from one table answers the fields of the records that the condition selects. -/
theorem run_selectSingle (hvalid : db.schema.validate = .ok ()) (h : db.Mirrors files m) {t : Table}
    (ht : db.table? t.name = some t) {fields : List String}
    (hfields : Query.checkFields [t] fields = .ok ()) {text : Option String}
    {condition : Option Condition} (htext : Statement.readCondition text = .ok condition) :
    (Statement.select fields [t.name] text).run db files
      = .ok (.rows fields (((m t.name).records.filter fun r =>
          condition.all (Memory.selects db · t.name r)).map fun r =>
            Query.project fields (t.row r))) files := by
  have hlock : db.lockPlan [t.name] = .ok (lockOrder [t.name]) := by
    apply lockPlan_of_declared
    intro other hother
    rw [List.mem_singleton.1 hother, ht]
    rfl
  have hrun : Memory.run db (.select fields [t.name] text) m
      = .ok (.rows fields (((m t.name).records.filter fun r =>
          condition.all (Memory.selects db · t.name r)).map fun r =>
            Query.project fields (t.row r))) m := by
    rw [Memory.run, Memory.asking_bind htext, Memory.asking_bind hlock,
      Memory.asking_bind (Memory.select_single ht hfields condition)]
    rfl
  obtain ⟨files', hfiles', -⟩ := exists_run_of_memory hvalid h (by rintro _ _ ⟨⟩) hrun
  have hstate := stateOf_run_select db fields [t.name] text files
  rw [hfiles'] at hstate
  rw [hfiles', ← hstate]
  rfl

/-- The selection of all columns of a table answers its records. -/
theorem run_selectAll (hvalid : db.schema.validate = .ok ()) (h : db.Mirrors files m)
    {name : String} {t : Table} (ht : db.table? name = some t) {text : Option String}
    {condition : Option Condition} (htext : Statement.readCondition text = .ok condition) :
    (Statement.selectAll t text).run db files
      = .ok (.rows t.fields
          ((m name).records.filter fun r => condition.all (Memory.selects db · name r))) files := by
  obtain rfl := name_of_table? ht
  have hp := proper_of_table? hvalid ht
  rw [Statement.selectAll, run_selectSingle hvalid h ht (Table.checkFields_fields hp) htext]
  have hproject : ∀ rs : List Record, (∀ r ∈ rs, r ∈ (m t.name).records) →
      (rs.map fun r => Query.project t.fields (t.row r)) = rs := by
    intro rs hrs
    exact (List.map_congr_left fun r hr =>
      Table.project_row hp (h.length_of_mem ht (hrs r hr))).trans (List.map_id' rs)
  rw [hproject _ fun r hr => List.mem_of_mem_filter hr]

/-- Of the records of a table, a comparison selects those with the value. -/
theorem selects_equals (hvalid : db.schema.validate = .ok ()) (h : db.Mirrors files m)
    {t : Table}
    (ht : db.table? t.name = some t) (column value : String) {r : Record}
    (hr : r ∈ (m t.name).records) :
    Memory.selects db (.equals t.name column value) t.name r
      = decide (t.value? r column = some value) := by
  have hp := proper_of_table? hvalid ht
  have hget := Table.get?_row hp (h.length_of_mem ht hr) hp.point_not_mem column
  rw [if_pos rfl] at hget
  rw [Memory.selects, ht, Bool.eq_iff_iff, decide_eq_true_iff]
  simp [Condition.holds, hget]

/-- To leave out what was selected is to keep what is not selected. -/
theorem filter_not_mem_filter {page records : List Record} (p : Record → Bool)
    (hsubset : ∀ r ∈ page, r ∈ records) :
    page.filter (fun r => r ∉ records.filter p) = page.filter fun r => !p r := by
  refine List.filter_congr fun r hr => ?_
  have hmem := hsubset r hr
  cases hp : p r <;> simp [hmem, hp]

/-- In every state of a database, a deletion from declared tables with a condition removes from each
of them what the selection of all its columns with the condition answers, and counts the removed
rows of each table once.  The other rows stay on their sheets in their order, another deletion finds
nothing, and neither the next keys nor the files of other tables change. -/
theorem deleteWhere_removes_selected (hvalid : db.schema.validate = .ok ())
    (hreached : db.Reached files) {names : List String}
    (hnames : ∀ name ∈ names, (db.table? name).isSome = true) {text : String}
    {condition : Condition} (htext : Condition.parse text = .ok condition) :
    ∃ (after : FileTree) (rows matching : String → List Record),
      (Statement.deleteWhere names text).run db files
        = .ok (.deletedRows (∑ name ∈ names.toFinset, (matching name).length)) after ∧
      (∀ name ∈ names, ∀ t, db.table? name = some t →
        (Statement.selectAll t none).run db files = .ok (.rows t.fields (rows name)) files ∧
        (Statement.selectAll t (some text)).run db files
          = .ok (.rows t.fields (matching name)) files ∧
        (Statement.selectAll t none).run db after
          = .ok (.rows t.fields ((rows name).filter (· ∉ matching name))) after ∧
        ∃ sheets, t.sheets files = .ok sheets ∧
          t.sheets after = .ok (sheets.map fun (n, sheet) =>
            (n, sheet.filter (· ∉ matching name)))) ∧
      (∃ again, (Statement.deleteWhere names text).run db after = .ok (.deletedRows 0) again) ∧
      (∀ name t, db.table? name = some t → after.get? t.keyPath = files.get? t.keyPath) ∧
      ∀ name t, db.table? name = some t → name ∉ names →
        ∀ p, t.dir.holds p = true → after.get? p = files.get? p := by
  obtain ⟨m, hm⟩ := hreached.exists_mirrors hvalid
  have hinsert : ∀ name values, Statement.deleteWhere names text ≠ .insert name values := by
    rintro _ _ ⟨⟩
  obtain ⟨after, hafter, hmirrors⟩ :=
    exists_run_of_memory hvalid hm hinsert (Memory.run_deleteWhere hnames htext m)
  obtain ⟨again, hagain, -⟩ :=
    exists_run_of_memory hvalid hmirrors hinsert (Memory.run_deleteWhere hnames htext _)
  have hreadNone : Statement.readCondition none = .ok none := rfl
  have hread : Statement.readCondition (some text) = .ok (some condition) := by
    rw [Statement.readCondition, htext]
    rfl
  have hall : ∀ (m : Memory) (name : String), (m name).records.filter (fun r =>
      (none : Option Condition).all (Memory.selects db · name r)) = (m name).records :=
    fun m name => List.filter_eq_self.2 fun _ _ => rfl
  refine ⟨after, fun name => (m name).records, fun name =>
    (m name).records.filter (Memory.selects db condition name), ?_, ?_, ⟨again, ?_⟩, ?_, ?_⟩
  · simpa only [List.countP_eq_length_filter] using hafter
  · intro name hname t ht
    have hwithout : Memory.without db condition names m name
        = (m name).deleteWhere (Memory.selects db condition name) := if_pos hname
    refine ⟨?_, run_selectAll hvalid hm ht hread, ?_, Sheet.numbered 1 (m name).pages,
      hm.sheets_eq ht hvalid, ?_⟩
    · have hselect := run_selectAll hvalid hm ht hreadNone
      rwa [hall] at hselect
    · have hselect := run_selectAll hvalid hmirrors ht hreadNone
      rw [hall, hwithout, Contents.records_deleteWhere] at hselect
      rw [filter_not_mem_filter _ fun r hr => hr]
      exact hselect
    · rw [hmirrors.sheets_eq ht hvalid, hwithout, ← Sheet.numbered_map 1 fun page => page.filter fun r =>
          r ∉ (m name).records.filter (Memory.selects db condition name)]
      refine congrArg (fun pages => Except.ok (Sheet.numbered 1 pages))
        (List.map_congr_left fun page hpage => (filter_not_mem_filter _ fun r hr => ?_).symm)
      exact List.mem_flatten.2 ⟨page, hpage, hr⟩
  · rw [Memory.sum_countP_without] at hagain
    exact hagain
  · intro name t ht
    rw [(hmirrors.shows.holds ht).key, (hm.shows.holds ht).key, Memory.nextKey_without]
  · intro name t ht hname p hp
    have hholds := hmirrors.shows.holds ht
    rw [Memory.without, if_neg hname] at hholds
    exact (hm.shows.holds ht).get?_eq hholds hp

/-- A deletion from both tables of the small database, of which one is named twice. -/
theorem sample_deleteWhere_removes_selected : ∃ files, sample.Reached files ∧
    ∃ (after : FileTree) (rows matching : String → List Record),
      (Statement.deleteWhere ["beer", "brewer", "beer"] "beer.style = 'Lambic'").run sample files
        = .ok (.deletedRows (∑ name ∈ ["beer", "brewer", "beer"].toFinset,
            (matching name).length)) after ∧
      (∀ name ∈ ["beer", "brewer", "beer"], ∀ t, sample.table? name = some t →
        (Statement.selectAll t none).run sample files = .ok (.rows t.fields (rows name)) files ∧
        (Statement.selectAll t (some "beer.style = 'Lambic'")).run sample files
          = .ok (.rows t.fields (matching name)) files ∧
        (Statement.selectAll t none).run sample after
          = .ok (.rows t.fields ((rows name).filter (· ∉ matching name))) after) := by
  obtain ⟨start, hopen, -⟩ := open_tracks sample (Path.emptyIn_empty "data")
  have hreached : sample.Reached (runSteps sample.step sampleSteps start).2 :=
    ⟨FileTree.empty, start, sampleSteps, Path.emptyIn_empty "data", hopen, rfl⟩
  have hnames : ∀ name ∈ ["beer", "brewer", "beer"], (sample.table? name).isSome = true := by
    decide +kernel
  have htext : Condition.parse "beer.style = 'Lambic'" = .ok (.equals "beer" "style" "Lambic") := by
    decide +kernel
  obtain ⟨after, rows, matching, hrun, hselect, -⟩ :=
    deleteWhere_removes_selected (by decide +kernel) hreached hnames htext
  refine ⟨_, hreached, after, rows, matching, hrun, fun name hname t ht => ?_⟩
  obtain ⟨hbefore, hmatching, hafter, -⟩ := hselect name hname t ht
  exact ⟨hbefore, hmatching, hafter⟩

end Database

end SheetStore
