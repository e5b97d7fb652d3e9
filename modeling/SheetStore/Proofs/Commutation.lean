import SheetStore.Proofs.Checks
import SheetStore.Proofs.Query.Rows
import SheetStore.Proofs.Steps
import SheetStore.Proofs.Table.Locality

/-!
# Statements on different tables

A statement works on the tables that it names (`Statement.tables`), each of which has an entry of
its own in the directory of the database.  So it is local to these entries (`execute_local`):
whatever lies in the directories, it changes nothing outside of them but a missing directory around
them, and two statements that name no table in common can be exchanged (`execute_commute`).

That different tables have different entries is a matter of paths.  On a disk there are only texts,
in which a name with a slash could lead into the directory of another table.  A valid schema has no
such names, so not even the texts of two paths in different tables are the same (`text_ne`).
-/

namespace SheetStore

open FileTree Storage

/-! ## Texts of paths -/

namespace Path

/-- The text of a path goes on below it with a slash. -/
theorem toList_text_of_holds {p q : Path} (h : p.holds q = true) :
    ∃ rest, q.text.toList = p.text.toList ++ rest ∧ ∀ c, rest.head? = some c → c = '/' := by
  induction q with
  | base text =>
      rw [holds, beq_iff_eq] at h
      exact ⟨[], by rw [h, List.append_nil], nofun⟩
  | entry dir name ih =>
      rw [holds, Bool.or_eq_true, beq_iff_eq] at h
      rcases h with rfl | h
      · exact ⟨[], (List.append_nil _).symm, nofun⟩
      · obtain ⟨rest, hrest, hhead⟩ := ih h
        refine ⟨rest ++ '/' :: name.toList, ?_, fun c hc => ?_⟩
        · simp [text, hrest]
        · cases rest with
          | nil => exact (Option.some.inj hc).symm
          | cons d rest => exact hhead c hc

/-- Below two entries whose names have no slash, no two paths have the same text. -/
theorem text_ne {dir p q : Path} {a b : String} (ha : '/' ∉ a.toList) (hb : '/' ∉ b.toList)
    (hne : a ≠ b) (hp : (dir.entry a).holds p = true) (hq : (dir.entry b).holds q = true) :
    p.text ≠ q.text := by
  -- the name is what stands before the next slash
  have hname : ∀ {name : String} {rest : List Char}, '/' ∉ name.toList →
      (∀ c, rest.head? = some c → c = '/') →
      (name.toList ++ rest).takeWhile (· != '/') = name.toList := by
    intro name rest hname hrest
    have hall : ∀ c ∈ name.toList, (c != '/') = true := fun c hc =>
      bne_iff_ne.2 fun heq => hname (heq ▸ hc)
    rw [List.takeWhile_append_of_pos hall]
    cases rest with
    | nil => simp
    | cons c rest => simp [hrest c rfl]
  obtain ⟨rest, hrest, hhead⟩ := toList_text_of_holds hp
  obtain ⟨rest', hrest', hhead'⟩ := toList_text_of_holds hq
  intro heq
  rw [heq, hrest'] at hrest
  simp only [text, String.toList_append, List.append_assoc, List.append_cancel_left_eq] at hrest
  refine hne (String.toList_inj.1 ?_)
  rw [← hname ha hhead, ← hname hb hhead', hrest]

end Path

/-! ## Statements -/

namespace Statement

/-- The tables that a statement works on. -/
def tables : Statement → List String
  | .select _ tables _ => tables
  | .insert table _ => [table]
  | .delete tables => tables
  | .deleteWhere tables _ => tables

/-- The tables that a line works on, if it is a statement. -/
def tablesOf (line : String) : List String :=
  match parse line with
  | .ok statement => statement.tables
  | .error _ => []

end Statement

namespace Storage.Local

variable {dir : Path} {names : List String}

/-- A question that has nothing to do with the files is asked first. -/
theorem asking_bind {question : Except Failure α} {f : α → Storage β}
    (hf : ∀ a, question = .ok a → Local dir names (f a)) :
    Local dir names (Storage.reading (fun _ => question) >>= f) := by
  cases question with
  | ok a =>
      have heq : (Storage.reading (fun _ => Except.ok a) >>= f) = f a :=
        funext fun files => bind_of_ok rfl
      rw [heq]
      exact hf a rfl
  | error failure =>
      have heq : (Storage.reading (fun _ => (Except.error failure : Except Failure α)) >>= f)
          = Storage.reading fun _ => .error failure := funext fun files => bind_of_error rfl
      rw [heq]
      exact .reading fun _ _ _ => rfl

end Storage.Local

namespace Database

variable {db : Database} {name : String} {names tables : List String}

theorem locking_local (db : Database) (tables : List String) :
    Local db.dir names (Statement.locking db tables) :=
  .asking_bind fun _ _ => .pure ()

theorem inside_of_table? {t : Table} (ht : db.table? name = some t) (hname : name ∈ names) :
    db.dir.Inside names t.dir := by
  rw [dir_of_table? ht]
  exact Path.inside_of_mem hname

/-! ### Work on tables -/

theorem insert_local (values : List String) (hname : name ∈ names) :
    Local db.dir names (db.insert name values) :=
  .asking_bind fun _ ht => Table.insert_local
    (inside_of_table? (checks_of_insertionTable ht).1 hname) db.schema.sheetLimit values

theorem delete_local (hname : name ∈ names) : Local db.dir names (db.delete name) :=
  .asking_bind fun _ ht => Table.clear_local (dir_of_table? (table?_of_table ht)) hname

theorem deleteWhere_local (condition : Condition) (hname : name ∈ names) :
    Local db.dir names (db.deleteWhere name condition) :=
  .asking_bind fun _ ht => Table.deleteWhere_local
    (inside_of_table? (table?_of_table ht) hname) _

theorem select_eq_of_agree (fields : List String) (condition : Option Condition)
    (htables : ∀ name ∈ tables, name ∈ names) {s s' : FileTree}
    (h : AgreeOn db.dir (db.dir.Inside names) s s') :
    db.select fields tables condition s' = db.select fields tables condition s := by
  rw [select, select]
  cases hts : db.tables tables with
  | error failure => rfl
  | ok ts =>
      refine Query.select_congr db.joinMode fields fun t ht => ?_
      have hname : t.name ∈ tables := map_name_of_tables hts ▸ List.mem_map_of_mem ht
      exact Table.rows_eq_of_agree
        (inside_of_table? (table?_of_mem_tables hts ht) (htables _ hname)) h

theorem deleteEach_local (htables : ∀ name ∈ tables, name ∈ names) :
    Local db.dir names (Statement.deleteEach db tables) := by
  induction tables with
  | nil => exact .pure ()
  | cons name rest ih =>
      rw [List.forall_mem_cons] at htables
      exact (locking_local db [name]).bind fun _ => (delete_local htables.1).bind fun _ =>
        ih htables.2

theorem deleteWhereEach_local (condition : Condition) (htables : ∀ name ∈ tables, name ∈ names) :
    Local db.dir names (Statement.deleteWhereEach db condition tables) := by
  induction tables with
  | nil => exact .pure 0
  | cons name rest ih =>
      rw [List.forall_mem_cons] at htables
      exact (locking_local db [name]).bind fun _ =>
        (deleteWhere_local condition htables.1).bind fun _ => (ih htables.2).bind fun _ => .pure _

/-! ### Statements and lines -/

/-- A statement works on its tables alone. -/
theorem run_local (db : Database) (statement : Statement) :
    Local db.dir statement.tables (statement.run db) := by
  cases statement with
  | select fields tables text =>
      exact .asking_bind fun condition _ => (locking_local db tables).bind fun _ =>
        (Local.reading fun _ _ h => select_eq_of_agree fields condition (fun _ hn => hn) h).bind
          fun _ => .pure _
  | insert table values =>
      exact (locking_local db [table]).bind fun _ =>
        (insert_local values (List.mem_singleton_self table)).bind fun _ => .pure _
  | delete tables => exact (deleteEach_local fun _ hn => hn).bind fun _ => .pure _
  | deleteWhere tables text =>
      exact .asking_bind fun condition _ =>
        (deleteWhereEach_local condition fun _ hn => hn).bind fun _ => .pure _

/-- A line works on the tables of its statement alone. -/
theorem execute_local (db : Database) (line : String) :
    Local db.dir (Statement.tablesOf line) (db.execute line) := by
  refine .asking_bind fun statement hparse => ?_
  rw [Statement.tablesOf, hparse]
  exact run_local db statement

/-- Two lines that name no table in common have the same answers and leave the same files in either
order, whatever the files are.  Each changes nothing outside of the directories of its tables,
except that it may make what is missing of the directories around them, and the paths of different
tables are different as texts, too. -/
theorem execute_commute (hvalid : db.schema.validate = .ok ()) {first second : String}
    (hdisjoint : ∀ name ∈ Statement.tablesOf first, name ∉ Statement.tablesOf second)
    (files : FileTree) :
    (∃ answer answer' after,
      runSteps db.execute [first, second] files = ([answer, answer'], after) ∧
      runSteps db.execute [second, first] files = ([answer', answer], after)) ∧
    (∀ line p, (∀ name ∈ Statement.tablesOf line, (db.dir.entry name).holds p = false) →
      (stateOf (db.execute line files)).get? p = files.get? p ∨
      (∃ name ∈ Statement.tablesOf line, p.holds (db.dir.entry name) = true) ∧
        files.get? p = none ∧ (stateOf (db.execute line files)).get? p = some .directory) ∧
    ∀ a b t u, db.table? a = some t → db.table? b = some u → a ≠ b → ∀ p q,
      t.dir.holds p = true → u.dir.holds q = true → p.text ≠ q.text := by
  refine ⟨?_, fun line p hp => ?_, fun a b t u ht hu hne p q hp hq => ?_⟩
  · obtain ⟨hfirst, hsecond, hstate⟩ :=
      (execute_local db first).commute (execute_local db second) hdisjoint files
    refine ⟨_, _, _, rfl, ?_⟩
    simp only [runSteps, hfirst, hsecond, hstate]
  · have hconfined := (execute_local db line).confined files
    have houtside : ¬ db.dir.Inside (Statement.tablesOf line) p := by
      rintro ⟨name, hname, hinside⟩
      rw [hp name hname] at hinside
      cases hinside
    cases haround : p.holds db.dir with
    | false => exact .inl (hconfined.outside p houtside haround)
    | true =>
        rcases hconfined.get?_around haround with hsame | ⟨hne, hnone, hmade⟩
        · exact .inl hsame
        · obtain ⟨name, hname⟩ := List.exists_mem_of_ne_nil _ hne
          have hholds := Path.holds_trans haround (Path.holds_entry db.dir name)
          exact .inr ⟨⟨name, hname, hholds⟩, hnone, hmade⟩
  · rw [dir_of_table? ht] at hp
    rw [dir_of_table? hu] at hq
    have hslash : ∀ {name : String} {t : Table}, db.table? name = some t → '/' ∉ name.toList := by
      intro name t ht
      rw [← name_of_table? ht]
      exact Text.not_mem_of_isIdentifier (proper_of_table? hvalid ht).name (by decide)
    exact Path.text_ne (hslash ht) (hslash hu) hne hp hq

/-- Where there is nothing, emptying one table makes the directory around both, but not the other
table.  So an insertion into that one fails, be it before or after. -/
theorem sample_execute_commute :
    let emptying := "DELETE FROM beer"
    let insertion := "INSERT INTO brewer VALUES ('Villers')"
    let answer : Except Failure Outcome := .error
      (.storage ((sample.dir.entry "brewer").entry "brewer_pk_sequence") .notFound)
    ∃ after, runSteps sample.execute [emptying, insertion] FileTree.empty
        = ([.ok .deleted, answer], after) ∧
      runSteps sample.execute [insertion, emptying] FileTree.empty
        = ([answer, .ok .deleted], after) ∧
      after.get? sample.dir = some .directory := by
  intro emptying insertion answer
  have hdisjoint : ∀ name ∈ Statement.tablesOf emptying, name ∉ Statement.tablesOf insertion := by
    decide +kernel
  obtain ⟨⟨first, second, after, hrun, hrun'⟩, -⟩ :=
    execute_commute validate_sample hdisjoint FileTree.empty
  have hanswers : (runSteps sample.execute [emptying, insertion] FileTree.empty).1
      = [.ok .deleted, answer] := by decide +kernel
  have hmade : (runSteps sample.execute [emptying, insertion] FileTree.empty).2.get? sample.dir
      = some .directory := by decide +kernel
  rw [hrun] at hanswers hmade
  cases hanswers
  exact ⟨after, hrun, hrun', hmade⟩

end Database

end SheetStore
