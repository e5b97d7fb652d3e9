import SheetStore.Proofs.Keys
import SheetStore.Proofs.Query.Reordering
import SheetStore.Proofs.Refinement

/-!
# The limit of a sheet cannot be seen

Two databases of the same tables may have different limits on the records of a sheet.  The same
steps place and remove the same records in both, but on different sheets, so that only the order of
the rows in a selection can tell them apart, and this only after a deletion with a condition
(`Database.answers_repaged`).

Two relations between the contents of tables carry this.

* `Contents.SameRecords`: the same records in some order.  Insertions and deletions keep it, and
  queries over reordered rows answer reordered records.
* `Contents.SameOrder`: the same records in the same order, on pages of which all but the last are
  full.  Then a new record is placed at the end under every limit (`Contents.Filled.place`), and
  only a conditional deletion makes room on earlier pages.

What the steps do to related memories is the same argument for both (`Memory.step_alike`).
-/

namespace SheetStore

/-! ## Contents under two limits -/

namespace Contents

/-- All pages but the last are full. -/
def Filled (limit : Nat) (pages : List Sheet) : Prop :=
  ∀ page ∈ pages.dropLast, limit ≤ page.length

variable {limit limit' : Nat} {pages : List Sheet} {c c' : Contents}

theorem filled_cons {page : Sheet} (h : pages ≠ []) :
    Filled limit (page :: pages) ↔ limit ≤ page.length ∧ Filled limit pages := by
  rw [Filled, List.dropLast_cons_of_ne_nil h, List.forall_mem_cons]
  rfl

/-- If all pages but the last are full, a record is placed at the end, and they still are. -/
theorem Filled.place (h : Filled limit pages) (record : Record) :
    (Contents.place limit record pages).flatten = pages.flatten ++ [record] ∧
      Filled limit (Contents.place limit record pages) := by
  induction pages with
  | nil => exact ⟨rfl, List.forall_mem_nil _⟩
  | cons page rest ih =>
      rw [place_cons]
      by_cases hrest : rest = []
      · subst hrest
        split
        · exact ⟨by simp, List.forall_mem_nil _⟩
        · rename_i hfull
          exact ⟨by simp, List.forall_mem_singleton.2 (Nat.le_of_not_lt hfull)⟩
      · obtain ⟨hfull, hfilled⟩ := (filled_cons hrest).1 h
        obtain ⟨hflatten, hplace⟩ := ih hfilled
        rw [if_neg (Nat.not_lt.2 hfull), List.flatten_cons, hflatten, List.flatten_cons,
          List.append_assoc]
        exact ⟨rfl, (filled_cons (place_ne_nil _ _ _)).2 ⟨hfull, hplace⟩⟩

/-- The same next key, and the same records in some order. -/
structure SameRecords (c c' : Contents) : Prop where
  /-- The next keys are the same. -/
  nextKey : c.nextKey = c'.nextKey
  /-- The records are the same. -/
  records : c.records.Perm c'.records

theorem SameRecords.insert (h : SameRecords c c') (values : List String) :
    SameRecords (c.insert limit values) (c'.insert limit' values) := by
  obtain ⟨hkey, hrecords⟩ := h
  refine ⟨congrArg (· + 1) hkey, ?_⟩
  refine (flatten_place_perm limit _ c.pages).trans (.trans ?_
    (flatten_place_perm limit' _ c'.pages).symm)
  rw [hkey]
  exact hrecords.cons _

theorem SameRecords.deleteWhere (h : SameRecords c c') (selects : Record → Bool) :
    SameRecords (c.deleteWhere selects) (c'.deleteWhere selects) := by
  refine ⟨h.nextKey, ?_⟩
  rw [records_deleteWhere, records_deleteWhere]
  exact h.records.filter _

/-- The same next key and the same records in the same order, on pages that are full under their
limits. -/
structure SameOrder (limit limit' : Nat) (c c' : Contents) : Prop where
  /-- The next keys are the same. -/
  nextKey : c.nextKey = c'.nextKey
  /-- The records are the same, and so is their order. -/
  records : c.records = c'.records
  /-- The pages are full under the first limit. -/
  filled : Filled limit c.pages
  /-- The pages are full under the second limit. -/
  filled' : Filled limit' c'.pages

theorem sameOrder_initial : SameOrder limit limit' initial initial :=
  ⟨rfl, rfl, List.forall_mem_nil _, List.forall_mem_nil _⟩

theorem SameOrder.insert (h : SameOrder limit limit' c c') (values : List String) :
    SameOrder limit limit' (c.insert limit values) (c'.insert limit' values) := by
  obtain ⟨hkey, hrecords, hfilled, hfilled'⟩ := h
  obtain ⟨hflatten, hplace⟩ := hfilled.place (keyedRecord c.nextKey values)
  obtain ⟨hflatten', hplace'⟩ := hfilled'.place (keyedRecord c'.nextKey values)
  refine ⟨congrArg (· + 1) hkey, ?_, hplace, hplace'⟩
  refine hflatten.trans (.trans ?_ hflatten'.symm)
  rw [hkey]
  exact congrArg (· ++ _) hrecords

end Contents

/-! ## A database with another limit -/

/-- The table of the same name and columns in the directory of another database. -/
def Table.movedTo (t : Table) (dir : Path) : Table := { t with dir := dir.entry t.name }

namespace Database

/-- The database of the same tables in a storage directory of its own, with another limit. -/
def repaged (db : Database) (root : Path) (limit : Nat) : Database :=
  { db with root, schema := { db.schema with sheetLimit := limit } }

variable {db : Database} {root : Path} {limit : Nat}

theorem table_repaged (name : String) : (db.repaged root limit).table name
    = (db.table name).map (·.movedTo (db.repaged root limit).dir) := by
  have htable : (db.repaged root limit).table? name
      = (db.table? name).map (·.movedTo (db.repaged root limit).dir) := by
    rw [table?, table?, Option.map_map]
    rfl
  rw [table, table, htable]
  cases db.table? name <;> rfl

theorem tables_repaged (names : List String) : (db.repaged root limit).tables names
    = (db.tables names).map (List.map (·.movedTo (db.repaged root limit).dir)) := by
  induction names with
  | nil => rfl
  | cons name rest ih =>
      rw [tables, tables, table_repaged, ih]
      cases db.table name with
      | error failure => rfl
      | ok t => cases db.tables rest <;> rfl

theorem insertionTable_repaged (name : String) (values : List String) :
    (db.repaged root limit).insertionTable name values
      = (db.insertionTable name values).map (·.movedTo (db.repaged root limit).dir) := by
  rw [insertionTable, insertionTable, table_repaged]
  cases db.table name with
  | error failure => rfl
  | ok t =>
      have hcolumns : (t.movedTo (db.repaged root limit).dir).columns = t.columns := rfl
      simp only [Except.map, bind, Except.bind, hcolumns]
      split
      · rfl
      · cases checkValues values <;> rfl

end Database

/-! ## Answers under two limits -/

/-- The same answer, or the same fields and the same records in another order. -/
inductive Answer.SameUpToOrder : Answer → Answer → Prop where
  /-- Answers that are equal. -/
  | same (answer : Answer) : SameUpToOrder answer answer
  /-- Selections that answer the same records. -/
  | rows (fields : List String) {records records' : List Record} (h : records.Perm records') :
      SameUpToOrder (.ok (some (.rows fields records))) (.ok (some (.rows fields records')))

/-- The keys are the same, so they fit in both or in none. -/
theorem Answer.keyFits_of_sameUpToOrder {answers answers' : List Answer}
    (h : List.Forall₂ SameUpToOrder answers answers')
    (hfits : ∀ a ∈ answers, Answer.keyFits a = true) :
    ∀ a ∈ answers', Answer.keyFits a = true := by
  induction h with
  | nil => exact List.forall_mem_nil _
  | cons hsame _ ih =>
      rw [List.forall_mem_cons] at hfits ⊢
      refine ⟨?_, ih hfits.2⟩
      cases hsame with
      | same => exact hfits.1
      | rows => rfl

/-- Whether the step executes a deletion with a condition. -/
def Step.deletesWhere : Step → Bool
  | .execute line =>
      match Statement.parse line with
      | .ok (.deleteWhere _ _) => true
      | _ => false
  | _ => false

namespace Memory

/-- The contents of each table are related. -/
def Alike (rel : Contents → Contents → Prop) (m m' : Memory) : Prop :=
  ∀ name, rel (m name) (m' name)

/-! ## Changes -/

section Changes

variable {db : Database} {root : Path} {limit : Nat} {rel : Contents → Contents → Prop}

/-- Questions that do not look at the contents, of which the second has the answer of the first up
to a map. -/
theorem asking_alike {x : Except Failure α} {f : α → β} {act : α → Action γ} {act' : β → Action γ}
    (h : ∀ a, Refines (Alike rel) (Alike rel) (act a) (act' (f a))) :
    Refines (Alike rel) (Alike rel) (do act (← asking fun _ => x))
      (do act' (← asking fun _ => x.map f)) := by
  cases x with
  | ok a => exact h a
  | error failure => exact fun m m' hm => ⟨rfl, hm⟩

/-- New contents of one table. -/
theorem modify_alike {name : String} (f f' : Memory → α × Contents)
    (h : ∀ m m', Alike rel m m' → (f m).1 = (f' m').1 ∧ rel (f m).2 (f' m').2) :
    Refines (Alike rel) (Alike rel)
      (modifyGet fun m => ((f m).1, Function.update m name (f m).2) : Action α)
      (modifyGet fun m => ((f' m).1, Function.update m name (f' m).2)) := by
  intro m m' hm
  obtain ⟨hanswer, hcontents⟩ := h m m' hm
  refine ⟨congrArg Except.ok hanswer, fun other => ?_⟩
  show rel (Function.update m name (f m).2 other) (Function.update m' name (f' m').2 other)
  by_cases heq : other = name
  · subst heq
    rw [Function.update_self, Function.update_self]
    exact hcontents
  · rw [Function.update_of_ne heq, Function.update_of_ne heq]
    exact hm other

theorem insert_alike (hinsert : ∀ c c', rel c c' → ∀ values, c.nextKey = c'.nextKey ∧
      rel (c.insert db.schema.sheetLimit values) (c'.insert limit values))
    (name : String) (values : List String) :
    Refines (Alike rel) (Alike rel) (insert db name values)
      (insert (db.repaged root limit) name values) := by
  rw [insert, insert, Database.insertionTable_repaged]
  refine asking_alike fun _ => ?_
  exact modify_alike
    (fun m => ((m name).nextKey, (m name).insert db.schema.sheetLimit values))
    (fun m => ((m name).nextKey, (m name).insert limit values))
    fun m m' hm => hinsert _ _ (hm name) values

theorem delete_alike (hinitial : rel .initial .initial) (name : String) :
    Refines (Alike rel) (Alike rel) (delete db name) (delete (db.repaged root limit) name) := by
  rw [delete, delete, Database.table_repaged]
  refine asking_alike fun _ => ?_
  exact modify_alike (fun _ => ((), Contents.initial)) (fun _ => ((), Contents.initial))
    fun _ _ _ => ⟨rfl, hinitial⟩

theorem deleteEach_alike (hinitial : rel .initial .initial) (names : List String) :
    Refines (Alike rel) (Alike rel) (deleteEach db names)
      (deleteEach (db.repaged root limit) names) := by
  induction names with
  | nil => exact .pure ()
  | cons name rest ih => exact (delete_alike hinitial name).bind (fun _ _ h => h) fun _ => ih

/-- What a conditional deletion counts in a table, and what it leaves of it. -/
def removal (selects : Record → Bool) (name : String) (m : Memory) : Nat × Contents :=
  ((m name).records.countP selects, (m name).deleteWhere selects)

theorem deleteWhere_alike (hdelete : ∀ c c', rel c c' → ∀ selects : Record → Bool,
      c.records.countP selects = c'.records.countP selects ∧
        rel (c.deleteWhere selects) (c'.deleteWhere selects))
    (condition : Condition) (name : String) :
    Refines (Alike rel) (Alike rel) (deleteWhere db condition name)
      (deleteWhere (db.repaged root limit) condition name) := by
  rw [deleteWhere, deleteWhere, Database.table_repaged]
  refine asking_alike fun t => ?_
  let selects : Record → Bool := fun r => condition.holds [name] (t.row r)
  exact modify_alike (removal selects name) (removal selects name)
    fun m m' hm => hdelete _ _ (hm name) selects

theorem deleteWhereEach_alike (hdelete : ∀ c c', rel c c' → ∀ selects : Record → Bool,
      c.records.countP selects = c'.records.countP selects ∧
        rel (c.deleteWhere selects) (c'.deleteWhere selects))
    (condition : Condition) (names : List String) :
    Refines (Alike rel) (Alike rel) (deleteWhereEach db condition names)
      (deleteWhereEach (db.repaged root limit) condition names) := by
  induction names with
  | nil => exact .pure 0
  | cons name rest ih =>
      exact (deleteWhere_alike hdelete condition name).bind (fun _ _ h => h) fun count =>
        ih.bind (fun _ _ h => h) fun later => .pure (count + later)

/-! ## Selections -/

/-- A selection from the records of a memory does not depend on the directory and the limit. -/
theorem select_repaged (fields names : List String) (condition : Option Condition) (m : Memory) :
    select (db.repaged root limit) fields names condition m
      = select db fields names condition m := by
  rw [select, select, Database.tables_repaged]
  cases db.tables names with
  | error failure => rfl
  | ok tables =>
      have hname : ∀ t : Table, (t.movedTo (db.repaged root limit).dir).name = t.name :=
        fun _ => rfl
      have hcolumns : ∀ t : Table, (t.movedTo (db.repaged root limit).dir).columns = t.columns :=
        fun _ => rfl
      exact Query.answer_map_tables hname hcolumns db.joinMode tables fields condition
        fun _ _ => rfl

/-- Selections from the same records, each in some order. -/
theorem select_perm {m m' : Memory} (h : ∀ name, (m name).records.Perm (m' name).records)
    (fields names : List String) (condition : Option Condition) :
    (∃ failure, select db fields names condition m = .error failure ∧
      select db fields names condition m' = .error failure) ∨
    ∃ records records', select db fields names condition m = .ok records ∧
      select db fields names condition m' = .ok records' ∧ records.Perm records' := by
  rw [select, select]
  cases db.tables names with
  | error failure => exact .inl ⟨failure, rfl, rfl⟩
  | ok tables => exact Query.answer_perm _ fields condition fun t _ => (h t.name).map t.row

/-! ## Steps -/

variable {related : Answer → Answer → Prop} {m m' : Memory}

/-- A selection from a memory answers what `select` says and changes nothing. -/
theorem run_select {fields names plan : List String} {text : Option String}
    {condition : Option Condition} (hread : Statement.readCondition text = .ok condition)
    (hlock : db.lockPlan names = .ok plan) (m : Memory) :
    run db (.select fields names text) m
      = match select db fields names condition m with
        | .ok records => .ok (.rows fields records) m
        | .error failure => .error failure m := by
  rw [run, asking_bind hread, asking_bind hlock]
  cases hselect : select db fields names condition m with
  | ok records => exact asking_bind hselect
  | error failure => exact bind_of_error (by simp only [asking, hselect])

theorem run_select_of_unlocked {fields names : List String} {text : Option String}
    {condition : Option Condition} {failure : Failure}
    (hread : Statement.readCondition text = .ok condition)
    (hlock : db.lockPlan names = .error failure) (m : Memory) :
    run db (.select fields names text) m = .error failure m := by
  rw [run, asking_bind hread, hlock]
  rfl

theorem run_select_alike (hrefl : ∀ a, related a a) (fields names : List String)
    (text : Option String) (hm : Alike rel m m')
    (hselect : ∀ condition, (∃ failure, select db fields names condition m = .error failure ∧
        select db fields names condition m' = .error failure) ∨
      ∃ records records', select db fields names condition m = .ok records ∧
        select db fields names condition m' = .ok records' ∧
        related (.ok (some (.rows fields records))) (.ok (some (.rows fields records')))) :
    related (answerOf ((some <$> run db (.select fields names text)) m))
        (answerOf ((some <$> run (db.repaged root limit) (.select fields names text)) m')) ∧
      Alike rel (stateOf ((some <$> run db (.select fields names text)) m))
        (stateOf ((some <$> run (db.repaged root limit) (.select fields names text)) m')) := by
  rw [answer_map, answer_map, state_map, state_map]
  cases hread : Statement.readCondition text with
  | error failure =>
      rw [run, run, hread]
      exact ⟨hrefl _, hm⟩
  | ok condition =>
      cases hlock : db.lockPlan names with
      | error failure =>
          have hlock' : (db.repaged root limit).lockPlan names = .error failure := hlock
          rw [run_select_of_unlocked hread hlock, run_select_of_unlocked hread hlock']
          exact ⟨hrefl _, hm⟩
      | ok plan =>
          have hlock' : (db.repaged root limit).lockPlan names = .ok plan := hlock
          rw [run_select hread hlock, run_select hread hlock', select_repaged]
          rcases hselect condition with ⟨failure, hleft, hright⟩ |
            ⟨records, records', hleft, hright, hrelated⟩
          · rw [hleft, hright]
            exact ⟨hrefl _, hm⟩
          · rw [hleft, hright]
            exact ⟨hrelated, hm⟩

/-- If insertions and deletions keep the contents related, and selections from related contents have
related answers, then every step has related answers and keeps the contents related. -/
theorem step_alike (hrefl : ∀ a, related a a) (hinitial : rel .initial .initial)
    (hinsert : ∀ c c', rel c c' → ∀ values, c.nextKey = c'.nextKey ∧
      rel (c.insert db.schema.sheetLimit values) (c'.insert limit values))
    {step : Step} (hdelete : step.deletesWhere = true → ∀ c c', rel c c' →
      ∀ selects : Record → Bool, c.records.countP selects = c'.records.countP selects ∧
        rel (c.deleteWhere selects) (c'.deleteWhere selects))
    (hselect : ∀ m m', Alike rel m m' → ∀ fields names condition,
      (∃ failure, select db fields names condition m = .error failure ∧
        select db fields names condition m' = .error failure) ∨
      ∃ records records', select db fields names condition m = .ok records ∧
        select db fields names condition m' = .ok records' ∧
        related (.ok (some (.rows fields records))) (.ok (some (.rows fields records'))))
    (hm : Alike rel m m') :
    related (answerOf (Memory.step db step m))
        (answerOf (Memory.step (db.repaged root limit) step m')) ∧
      Alike rel (stateOf (Memory.step db step m))
        (stateOf (Memory.step (db.repaged root limit) step m')) := by
  have hrefines : ∀ {x y : Action (Option Outcome)}, Refines (Alike rel) (Alike rel) x y →
      related (answerOf (x m)) (answerOf (y m')) ∧ Alike rel (stateOf (x m)) (stateOf (y m')) := by
    intro x y h
    obtain ⟨hanswer, hstate⟩ := h m m' hm
    rw [hanswer]
    exact ⟨hrefl _, hstate⟩
  cases step with
  | execute line =>
      rw [Memory.step, Memory.step]
      cases hparse : Statement.parse line with
      | error failure => exact ⟨hrefl _, hm⟩
      | ok statement =>
          cases statement with
          | select fields names text =>
              exact run_select_alike hrefl fields names text hm (hselect m m' hm fields names)
          | insert name values =>
              refine hrefines (Refines.map ?_ some)
              exact (insert_alike hinsert name values).bind (fun _ _ h => h) fun _ => .pure _
          | delete names =>
              refine hrefines (Refines.map ?_ some)
              exact (deleteEach_alike hinitial names).bind (fun _ _ h => h) fun _ => .pure _
          | deleteWhere names text =>
              have hstep : (Step.execute line).deletesWhere = true := by
                rw [Step.deletesWhere, hparse]
              refine hrefines (Refines.map ?_ some)
              rw [run, run]
              cases hread : Condition.parse text with
              | error failure => exact fun _ _ h => ⟨rfl, h⟩
              | ok condition =>
                  exact (deleteWhereEach_alike (hdelete hstep) condition names).bind
                    (fun _ _ h => h) fun _ => .pure _
  | insert name values => exact hrefines ((insert_alike hinsert name values).map _)
  | reopen => exact ⟨hrefl _, hm⟩

/-- Steps from the same records have the same answers up to the order of rows. -/
theorem step_sameRecords (step : Step) (hm : Alike Contents.SameRecords m m') :
    Answer.SameUpToOrder (answerOf (Memory.step db step m))
        (answerOf (Memory.step (db.repaged root limit) step m')) ∧
      Alike Contents.SameRecords (stateOf (Memory.step db step m))
        (stateOf (Memory.step (db.repaged root limit) step m')) := by
  refine step_alike .same ⟨rfl, .refl _⟩ (fun c c' h values => ⟨h.nextKey, h.insert values⟩)
    (fun _ c c' h selects => ⟨h.records.countP_eq selects, h.deleteWhere selects⟩)
    (fun m m' hm fields names condition => ?_) hm
  rcases select_perm (fun name => (hm name).records) fields names condition with hfails |
    ⟨records, records', hleft, hright, hperm⟩
  · exact .inl hfails
  · exact .inr ⟨records, records', hleft, hright, .rows fields hperm⟩

/-- As long as records have the same order, all steps but conditional deletions have the same
answers and keep the order. -/
theorem step_sameOrder {step : Step} (hstep : step.deletesWhere = false)
    (hm : Alike (Contents.SameOrder db.schema.sheetLimit limit) m m') :
    answerOf (Memory.step db step m) = answerOf (Memory.step (db.repaged root limit) step m') ∧
      Alike (Contents.SameOrder db.schema.sheetLimit limit) (stateOf (Memory.step db step m))
        (stateOf (Memory.step (db.repaged root limit) step m')) := by
  refine step_alike (fun _ => rfl) Contents.sameOrder_initial
    (fun c c' h values => ⟨h.nextKey, h.insert values⟩) (fun h => ?_)
    (fun m m' hm fields names condition => ?_) hm
  · rw [hstep] at h
    cases h
  · have hselect : select db fields names condition m' = select db fields names condition m := by
      rw [select, select]
      simp only [fun name => (hm name).records]
    rw [hselect]
    cases select db fields names condition m with
    | error failure => exact .inl ⟨failure, rfl, rfl⟩
    | ok records => exact .inr ⟨records, records, rfl, rfl, rfl⟩

end Changes

end Memory

/-! ## Two databases -/

namespace Database

variable {db : Database} {root : Path} {limit : Nat}

/-- Two databases that differ only in their limits and storage directories, which are empty at
first, give the same answers to the same steps, up to the order of the rows of selections.  Before
the first conditional deletion this order is the same too. -/
theorem answers_repaged (hvalid : db.schema.validate = .ok ())
    (hvalid' : (db.repaged root limit).schema.validate = .ok ()) {files files' : FileTree}
    (hempty : db.root.EmptyIn files) (hempty' : root.EmptyIn files') :
    ∃ start start', openAt db.root db.schema db.joinMode files = .ok db start ∧
      openAt root (db.repaged root limit).schema db.joinMode files'
        = .ok (db.repaged root limit) start' ∧
      ∀ steps : List Step,
        (∀ a ∈ (runSteps db.step steps start).1, Answer.keyFits a = true) →
        List.Forall₂ Answer.SameUpToOrder (runSteps db.step steps start).1
            (runSteps (db.repaged root limit).step steps start').1 ∧
          ∀ n, (∀ step ∈ steps.take n, step.deletesWhere = false) →
            (runSteps db.step steps start).1.take n
              = (runSteps (db.repaged root limit).step steps start').1.take n := by
  obtain ⟨start, hopen, hstart⟩ := open_tracks db hempty
  obtain ⟨start', hopen', hstart'⟩ := open_tracks (db.repaged root limit) hempty'
  refine ⟨start, start', hopen, hopen', fun steps hfits => ?_⟩
  have hmemory : List.Forall₂ Answer.SameUpToOrder
      (runSteps (Memory.step db) steps Memory.initial).1
      (runSteps (Memory.step (db.repaged root limit)) steps Memory.initial).1 :=
    runSteps_related (fun step _ _ _ => Memory.step_sameRecords step)
      fun _ => (⟨rfl, .refl _⟩ : Contents.SameRecords .initial .initial)
  -- both runs in files answer as they do in memory, since the keys fit in both
  obtain ⟨hanswers, -⟩ := runSteps_tracks_of_fits hvalid steps hstart hfits
  have hfits' : ∀ a ∈ (runSteps (Memory.step (db.repaged root limit)) steps Memory.initial).1,
      Answer.keyFits a = true := by
    rw [hanswers] at hfits
    exact Answer.keyFits_of_sameUpToOrder hmemory hfits
  obtain ⟨hanswers', -⟩ := runSteps_tracks hvalid' steps hstart' hfits'
  rw [hanswers, hanswers']
  refine ⟨hmemory, fun n hn => ?_⟩
  have hsame : List.Forall₂ Eq (runSteps (Memory.step db) (steps.take n) Memory.initial).1
      (runSteps (Memory.step (db.repaged root limit)) (steps.take n) Memory.initial).1 :=
    runSteps_related (fun step hstep _ _ => Memory.step_sameOrder (hn step hstep))
      fun _ => Contents.sameOrder_initial
  rw [← runSteps_take, ← runSteps_take]
  exact List.forall₂_eq_eq_eq ▸ hsame

/-- Some steps of the small database, with a conditional deletion that makes room on a sheet. -/
def refillSteps : List Step := [
  .insert "beer" ["Duvel", "Ale"],
  .insert "beer" ["Orval", "Trappist"],
  .execute "DELETE FROM beer WHERE beer.style = 'Ale'",
  .insert "beer" ["Kriek", "Lambic"],
  .execute "SELECT beer.name FROM beer"]

/-- The small database and another one with a single record on each sheet. -/
theorem sample_answers_repaged : ∃ start start',
    openAt sample.root sample.schema sample.joinMode FileTree.empty = .ok sample start ∧
    openAt (.base "other") (sample.repaged (.base "other") 1).schema sample.joinMode FileTree.empty
      = .ok (sample.repaged (.base "other") 1) start' ∧
    List.Forall₂ Answer.SameUpToOrder (runSteps sample.step refillSteps start).1
        (runSteps (sample.repaged (.base "other") 1).step refillSteps start').1 ∧
      (runSteps sample.step refillSteps start).1.take 2
        = (runSteps (sample.repaged (.base "other") 1).step refillSteps start').1.take 2 := by
  have hvalid : (sample.repaged (.base "other") 1).schema.validate = .ok () := by decide +kernel
  obtain ⟨start, start', hopen, hopen', hrun⟩ := answers_repaged validate_sample hvalid
    (Path.emptyIn_empty "data") (Path.emptyIn_empty "other")
  have hstart : start = stateOf (sample.ensure FileTree.empty) := by
    cases hopen.symm.trans openAt_sample
    rfl
  have hfits : ∀ a ∈ (runSteps sample.step refillSteps start).1, Answer.keyFits a = true := by
    rw [hstart]
    decide +kernel
  obtain ⟨hall, hfirst⟩ := hrun refillSteps hfits
  exact ⟨start, start', hopen, hopen', hall, hfirst 2 (by decide +kernel)⟩

/-- After the deletion the next record goes to the end of the only sheet in one database, and to the
first of two sheets in the other. -/
example : (runSteps (Memory.step sample) refillSteps Memory.initial).1.getLast?
      = some (.ok (some (.rows ["beer.name"] [["Orval"], ["Kriek"]]))) ∧
    (runSteps (Memory.step (sample.repaged (.base "other") 1)) refillSteps
        Memory.initial).1.getLast?
      = some (.ok (some (.rows ["beer.name"] [["Kriek"], ["Orval"]]))) := by
  decide +kernel

end Database

end SheetStore
