import SheetStore.Statement.Run
import SheetStore.Proofs.Locks
import SheetStore.Proofs.Schema
import SheetStore.Proofs.Text.Numeral
import SheetStore.Proofs.Table.Changes

/-!
# What refuses a statement

A statement is refused before it touches a file if one of its tables is not declared or if a sheet
cannot hold its values.  An insertion that is taken has a record that fits the sheets of its table,
whatever its key (`of_insertionTable`).

Locking asks the same question about tables as the work that follows, so on a single table it
changes no answer (`locking_bind`).
-/

namespace SheetStore.Database

variable {db : Database} {name : String} {t : Table}

/-! ## Tables that are declared -/

theorem table_of_table? (h : db.table? name = some t) : db.table name = .ok t := by
  simp only [table, h]

theorem table_of_table?_none (h : db.table? name = none) :
    db.table name = .error (.unknownTable name) := by
  simp only [table, h]

theorem table?_of_table (h : db.table name = .ok t) : db.table? name = some t := by
  rw [table] at h
  split at h
  · rename_i ht
    cases h
    exact ht
  · cases h

theorem isSome_table? (db : Database) (name : String) :
    (db.table? name).isSome = db.schema.tables.contains name := by
  rw [table?, Option.isSome_map, Schema.columns?, Option.isSome_map,
    Std.ExtTreeMap.contains_eq_isSome_getElem?]

theorem map_name_of_tables {names : List String} {ts : List Table}
    (h : db.tables names = .ok ts) : ts.map Table.name = names := by
  induction names generalizing ts with
  | nil =>
      cases h
      rfl
  | cons name rest ih =>
      rw [tables] at h
      obtain ⟨t, hfirst, h⟩ := of_bind_ok h
      obtain ⟨us, hrest, h⟩ := of_bind_ok h
      cases h
      rw [List.map_cons, ih hrest, name_of_table? (table?_of_table hfirst)]

theorem table?_of_mem_tables {names : List String} {ts : List Table}
    (h : db.tables names = .ok ts) (ht : t ∈ ts) : db.table? t.name = some t := by
  induction names generalizing ts with
  | nil =>
      cases h
      cases ht
  | cons name rest ih =>
      rw [tables] at h
      obtain ⟨u, hfirst, h⟩ := of_bind_ok h
      obtain ⟨us, hrest, h⟩ := of_bind_ok h
      cases h
      rcases List.mem_cons.1 ht with rfl | ht
      · have hdeclared := table?_of_table hfirst
        rw [name_of_table? hdeclared]
        exact hdeclared
      · exact ih hrest ht

/-! ## Locking -/

/-- Declared tables can be locked. -/
theorem lockPlan_of_declared {names : List String}
    (h : ∀ name ∈ names, (db.table? name).isSome = true) :
    db.lockPlan names = .ok (lockOrder names) := by
  refine lockPlan_eq_ok_iff.2 ⟨fun name hname => ?_, rfl⟩
  rw [← isSome_table?, h name hname]

/-- An action on a single table that refuses tables which are not declared needs no lock to do
so. -/
theorem locking_bind {action : Storage α} (h : db.table? name = none →
    ∀ files, action files = .error (.unknownTable name) files) :
    (do Statement.locking db [name]; action) = action := by
  funext files
  have horder : lockOrder [name] = [name] := rfl
  cases ht : db.table? name with
  | some t =>
      have hplan : db.lockPlan [name] = .ok (lockOrder [name]) := by
        apply lockPlan_of_declared
        intro other hother
        rw [List.mem_singleton.1 hother, ht]
        rfl
      have hlocking : Statement.locking db [name] files = .ok () files :=
        bind_of_ok (Storage.reading_of_ok hplan)
      rw [bind_of_ok hlocking]
  | none =>
      have hknown : db.schema.tables.contains name = false := by
        rw [← isSome_table?, ht]
        rfl
      have hplan : db.lockPlan [name] = .error (.unknownTable name) := by
        simp [lockPlan, SheetStore.lockPlan, horder, hknown]
      have hlocking : Statement.locking db [name] files
          = .error (.unknownTable name) files :=
        bind_of_error (Storage.reading_of_error hplan)
      rw [bind_of_error hlocking, h ht files]

theorem deleteEach_cons (db : Database) (name : String) (rest : List String) :
    Statement.deleteEach db (name :: rest)
      = (do db.delete name; Statement.deleteEach db rest) := by
  rw [Statement.deleteEach, ← bind_assoc, locking_bind]
  intro hnone files
  rw [delete, table_of_table?_none hnone]
  rfl

theorem deleteWhereEach_cons (db : Database) (condition : Condition) (name : String)
    (rest : List String) :
    Statement.deleteWhereEach db condition (name :: rest) = (do
      let count ← db.deleteWhere name condition
      return count + (← Statement.deleteWhereEach db condition rest)) := by
  rw [Statement.deleteWhereEach, ← bind_assoc, locking_bind]
  intro hnone files
  rw [deleteWhere, table_of_table?_none hnone]
  rfl

/-- The statement needs no lock to insert a row. -/
theorem run_insert (db : Database) (name : String) (values : List String) :
    Statement.run db (.insert name values) = Outcome.inserted <$> db.insert name values := by
  rw [Statement.run, locking_bind, map_eq_pure_bind]
  intro hnone files
  rw [insert, insertionTable, table_of_table?_none hnone]
  rfl

/-! ## Values that are taken -/

theorem of_checkValues {values : List String} (h : checkValues values = .ok ()) :
    ∀ v ∈ values, ',' ∉ v.toList ∧ '\n' ∉ v.toList ∧ '\r' ∉ v.toList := by
  induction values with
  | nil => exact List.forall_mem_nil _
  | cons v rest ih =>
      simp only [checkValues] at h
      split at h
      · cases h
      · rename_i hcomma
        split at h
        · cases h
        · rename_i hbreak
          rw [List.forall_mem_cons]
          refine ⟨⟨by simpa using hcomma, ?_⟩, ih h⟩
          simpa using hbreak

/-- A record of values without commas and line breaks fits a sheet of its table, whatever its key. -/
theorem fits_keyedRecord {values : List String} {width : Nat}
    (hfree : ∀ v ∈ values, ',' ∉ v.toList ∧ '\n' ∉ v.toList ∧ '\r' ∉ v.toList)
    (hwidth : values.length + 1 = width) (hwide : 2 ≤ width) (key : Nat) :
    Sheet.Fits width [keyedRecord key values] := by
  intro r hr
  rw [List.mem_singleton.1 hr, keyedRecord]
  refine ⟨⟨List.cons_ne_nil _ _, ?_, ?_, ?_⟩, hwidth, ?_⟩
  · rw [List.forall_mem_cons]
    exact ⟨Text.not_mem_toString (by decide) key, fun v hv => (hfree v hv).1⟩
  · rw [List.forall_mem_cons]
    exact ⟨Text.not_mem_toString (by decide) key, fun v hv => (hfree v hv).2.1⟩
  · intro v hv hlast
    rcases List.mem_cons.1 (List.mem_of_getLast? hv) with rfl | hv
    · exact Text.not_mem_toString (by decide) key (List.mem_of_getLast? hlast)
    · exact (hfree v hv).2.2 (List.mem_of_getLast? hlast)
  · intro heq
    have hlen := congrArg List.length heq
    rw [List.length_cons, hwidth, List.length_singleton] at hlen
    omega

/-- An insertion is taken by a declared table that has a column for each value. -/
theorem checks_of_insertionTable {values : List String}
    (h : db.insertionTable name values = .ok t) :
    db.table? name = some t ∧ values.length = t.columns.length - 1 ∧
      checkValues values = .ok () := by
  rw [insertionTable] at h
  obtain ⟨u, htable, h⟩ := of_bind_ok h
  by_cases hlen : values.length ≠ u.columns.length - 1
  · simp only [if_pos hlen] at h
    cases h
  · simp only [if_neg hlen] at h
    obtain ⟨_, hvalues, h⟩ := of_bind_ok h
    cases h
    exact ⟨table?_of_table htable, not_not.1 hlen, hvalues⟩

/-- An insertion that is taken gives a record that fits a sheet of its table. -/
theorem of_insertionTable {values : List String} (hvalid : db.schema.validate = .ok ())
    (h : db.insertionTable name values = .ok t) :
    db.table? name = some t ∧ ∀ key, Sheet.Fits t.columns.length [keyedRecord key values] := by
  obtain ⟨hdeclared, hlen, hvalues⟩ := checks_of_insertionTable h
  have hwide := (proper_of_table? hvalid hdeclared).wide
  exact ⟨hdeclared, fits_keyedRecord (of_checkValues hvalues) (by omega) hwide⟩

end SheetStore.Database
