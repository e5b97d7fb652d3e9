import SheetStore.Proofs.Memory
import SheetStore.Proofs.Table.Changes

/-!
# Opening a database

A file tree *shows* a memory if every declared table holds what the memory has for it
(`Database.Shows`).  Opening a database in an empty storage directory makes every table new
(`open_of_empty`), and opening it where its tables are there already changes nothing
(`open_of_shows`).

Both go through the tables in their order.  Each table has a directory of its own, so what is made
for one table neither meets nor disturbs another one.
-/

namespace SheetStore.Database

variable {db : Database} {files : FileTree}

/-- Every declared table holds its contents, which are valid. -/
structure Shows (db : Database) (files : FileTree) (m : Memory) : Prop where
  /-- The files of the table have the contents. -/
  holds : ∀ {name t}, db.table? name = some t → t.Holds files (m name)
  /-- The contents are valid. -/
  valid : ∀ {name t}, db.table? name = some t → (m name).Valid t.columns.length

/-! ## The declared tables -/

theorem table?_of_mem_allTables {t : Table} (h : t ∈ db.allTables) : db.table? t.name = some t := by
  obtain ⟨name, -, ht⟩ := List.mem_filterMap.1 h
  rw [name_of_table? ht]
  exact ht

theorem mem_allTables_of_table? {name : String} {t : Table} (h : db.table? name = some t) :
    t ∈ db.allTables := by
  refine List.mem_filterMap.2 ⟨name, ?_, h⟩
  simp only [table?, Schema.columns?, Option.map_eq_some_iff] at h
  obtain ⟨_, ⟨declared, hdeclared, rfl⟩, rfl⟩ := h
  rw [Std.ExtTreeMap.mem_keys, Std.ExtTreeMap.mem_iff_isSome_getElem?, hdeclared]
  rfl

theorem nodup_allTables : (db.allTables.map Table.name).Nodup := by
  rw [List.Nodup, List.pairwise_map, allTables, List.pairwise_filterMap]
  refine List.Pairwise.imp ?_ Std.ExtTreeMap.nodup_keys
  intro a b hne t ht u hu heq
  rw [name_of_table? ht, name_of_table? hu] at heq
  exact hne heq

/-- A valid schema declares a table. -/
theorem exists_table? (hvalid : db.schema.validate = .ok ()) :
    ∃ name t, db.table? name = some t := by
  rw [Schema.validate] at hvalid
  split at hvalid
  · cases hvalid
  · split at hvalid
    · cases hvalid
    · split at hvalid
      · cases hvalid
      · rename_i hsome
        rw [← Std.ExtTreeMap.isEmpty_keys, List.isEmpty_iff] at hsome
        obtain ⟨name, hname⟩ := List.exists_mem_of_ne_nil _ hsome
        rw [Std.ExtTreeMap.mem_keys, Std.ExtTreeMap.mem_iff_isSome_getElem?] at hname
        obtain ⟨declared, hdeclared⟩ := Option.isSome_iff_exists.1 hname
        exact ⟨name, _, by rw [table?, Schema.columns?, hdeclared]; rfl⟩

/-- The directories of different tables have nothing in common. -/
theorem apart_of_ne {a b : String} {t u : Table} (ht : db.table? a = some t)
    (hu : db.table? b = some u) (hne : a ≠ b) {p : Path} (hp : t.dir.holds p = true) :
    u.dir.holds p = false := by
  rw [dir_of_table? ht] at hp
  rw [dir_of_table? hu]
  exact Path.holds_sibling hne hp

/-! ## Opening for the first time -/

/-- Where the directories of the tables are missing, all of them are made. -/
theorem ensureTables_of_missing {ts : List Table} (hts : ∀ t ∈ ts, db.table? t.name = some t)
    (hnodup : (ts.map Table.name).Nodup) (hdir : files.get? db.dir = some .directory)
    (hnone : ∀ t ∈ ts, files.get? t.dir = none) :
    ∃ files', ensureTables ts files = .ok () files' ∧ (∀ t ∈ ts, t.Holds files' .initial) ∧
      ∀ p, (∀ t ∈ ts, t.dir.holds p = false) → files'.get? p = files.get? p := by
  induction ts generalizing files with
  | nil => exact ⟨files, rfl, List.forall_mem_nil _, fun _ _ => rfl⟩
  | cons t rest ih =>
      rw [List.forall_mem_cons] at hts hnone
      rw [List.map_cons, List.nodup_cons] at hnodup
      have happart : ∀ u ∈ rest, t.name ≠ u.name := by
        intro u hu heq
        exact hnodup.1 (List.mem_map.2 ⟨u, hu, heq.symm⟩)
      -- the first table
      obtain ⟨made, hmade, hholds, hsame⟩ :=
        Table.ensure_yields (dir_of_table? hts.1) hdir hnone.1
      have hdir' : made.get? db.dir = some .directory := by
        rw [hsame _ ?_, hdir]
        rw [dir_of_table? hts.1]
        exact Path.not_holds_parent _ _
      have hnone' : ∀ u ∈ rest, made.get? u.dir = none := by
        intro u hu
        rw [hsame _ ?_, hnone.2 u hu]
        exact apart_of_ne (hts.2 u hu) hts.1 (happart u hu).symm (Path.holds_self _)
      -- the tables after it
      obtain ⟨files', hrun, hrest, hothers⟩ := ih hts.2 hnodup.2 hdir' hnone'
      refine ⟨files', (bind_of_ok hmade).trans hrun, ?_, ?_⟩
      · rw [List.forall_mem_cons]
        refine ⟨hholds.congr fun p hp => hothers p fun u hu => ?_, hrest⟩
        exact apart_of_ne hts.1 (hts.2 u hu) (happart u hu) hp
      · intro p hp
        rw [List.forall_mem_cons] at hp
        rw [hothers p hp.2, hsame p hp.1]

/-- In an empty storage directory, every table is made new. -/
theorem open_of_empty (hempty : db.root.EmptyIn files) :
    ∃ files', openAt db.root db.schema db.joinMode files = .ok db files' ∧
      db.Shows files' Memory.initial := by
  obtain ⟨rooted, hrooted⟩ := hempty.makes
  have hfree : files.get? db.dir = none :=
    hempty.nothing _ (Path.holds_entry _ _) (Path.entry_ne _ _)
  have hrootDir : rooted.get? db.root = some .directory := FileTree.get?_createDirAll_self hrooted
  -- the directory of the database
  obtain ⟨made, hmade⟩ : ∃ made, made = rooted.put db.root db.schema.name .directory := ⟨_, rfl⟩
  have hcreate : files.createDirAll db.dir = .ok made := by
    rw [hmade]
    exact FileTree.createDirAll_entry_of_ok hrooted hfree
  have hdir : made.get? db.dir = some .directory := FileTree.get?_createDirAll_self hcreate
  have hnone : ∀ t ∈ db.allTables, made.get? t.dir = none := by
    intro t ht
    have htdir := dir_of_table? (table?_of_mem_allTables ht)
    rw [FileTree.get?_of_createDirAll hcreate, htdir, Path.not_holds_parent,
      if_neg Bool.false_ne_true]
    exact FileTree.get?_of_holds_none hfree (Path.holds_entry _ _)
  obtain ⟨files', hrun, hholds, -⟩ := ensureTables_of_missing
    (fun t ht => table?_of_mem_allTables ht) nodup_allTables hdir hnone
  refine ⟨files', ?_, ?_, ?_⟩
  · have hensure : db.ensure files = .ok () files' :=
      (bind_of_ok (Storage.change_of_ok hcreate)).trans hrun
    exact bind_of_ok hensure
  · intro name t ht
    exact hholds t (mem_allTables_of_table? ht)
  · intro name t _
    exact Contents.valid_initial _

/-! ## Opening again -/

/-- Opening leaves what making leaves that is missing. -/
theorem stateOf_openAt (db : Database) (files : FileTree) :
    stateOf (openAt db.root db.schema db.joinMode files) = stateOf (db.ensure files) := by
  have hmap : openAt db.root db.schema db.joinMode = (fun _ => db) <$> db.ensure := by
    rw [map_eq_pure_bind]
    rfl
  rw [hmap, state_map]

/-- Tables that have their files lack nothing. -/
theorem ensureTables_of_hasFiles {ts : List Table} (h : ∀ t ∈ ts, t.HasFiles files) :
    ensureTables ts files = .ok () files := by
  induction ts with
  | nil => rfl
  | cons t rest ih =>
      rw [List.forall_mem_cons] at h
      rw [ensureTables, bind_of_ok (Table.ensure_of_hasFiles h.1)]
      exact ih h.2

/-- Where all tables have their files, opening changes nothing. -/
theorem open_of_hasFiles (hvalid : db.schema.validate = .ok ())
    (h : ∀ t ∈ db.allTables, t.HasFiles files) :
    openAt db.root db.schema db.joinMode files = .ok db files := by
  obtain ⟨name, t, ht⟩ := exists_table? hvalid
  have hdir : files.get? db.dir = some .directory := by
    obtain ⟨node, hnode⟩ :=
      Option.isSome_iff_exists.1 (h t (mem_allTables_of_table? ht)).key
    have htdir := FileTree.get?_parent hnode
    rw [dir_of_table? ht] at htdir
    exact FileTree.get?_parent htdir
  have hchange : Storage.change db.dir (·.createDirAll db.dir) files = .ok () files :=
    Storage.change_of_ok (FileTree.createDirAll_of_directory hdir)
  have hensure : db.ensure files = .ok () files :=
    (bind_of_ok hchange).trans (ensureTables_of_hasFiles h)
  exact bind_of_ok hensure

/-- Where all tables are there, opening changes nothing. -/
theorem open_of_shows {m : Memory} (hvalid : db.schema.validate = .ok ()) (h : db.Shows files m) :
    openAt db.root db.schema db.joinMode files = .ok db files := by
  refine open_of_hasFiles hvalid fun t ht => ?_
  have htable := table?_of_mem_allTables ht
  exact (h.holds htable).hasFiles (h.valid htable)

end SheetStore.Database
