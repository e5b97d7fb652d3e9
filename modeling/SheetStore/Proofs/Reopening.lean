import SheetStore.Proofs.Modes
import SheetStore.Proofs.Table.Insertion

/-!
# Opening over what is there

Opening makes what is missing and leaves the rest alone, whatever an operator, another schema or an
opening that failed has left behind.  One relation says this of any two trees
(`Database.Completes`): the second one has every node of the first, and what it has more is one of
the few nodes that opening may make (`Database.Makes`).  Temporary siblings are the exception.  They
come and go with the files that they are made for, and a failure can leave one.

The relation is reflexive and transitive, and each action of opening completes the tree that it
finds, whether it succeeds or not.  So every tree between the start and the end is a completion
of the first one (`Database.ensure_completes`).

Where opening succeeds, every table has its first sheet and its key sequence, and then nothing is
missing any more (`Database.openAt_completes`).
-/

namespace SheetStore

namespace Database

/-! ## What opening may make -/

/-- The path is a temporary sibling of the first sheet or the key sequence of a table. -/
def Temporary (db : Database) (p : Path) : Prop :=
  ∃ name t, db.table? name = some t ∧
    (p = Storage.temporary (t.sheetPath .first) ∨ p = Storage.temporary t.keyPath)

/-- A node that opening may make at a path. -/
inductive Makes (db : Database) : Path → Node → Prop where
  /-- The directory of the database, or one around it. -/
  | directory {p : Path} (h : p.holds db.dir = true) : Makes db p .directory
  /-- The directory of a table. -/
  | tableDirectory {name : String} {t : Table} (ht : db.table? name = some t) :
      Makes db t.dir .directory
  /-- The first sheet of a table, with the header alone. -/
  | sheet {name : String} {t : Table} (ht : db.table? name = some t) :
      Makes db (t.sheetPath .first) (.file (Record.line t.columns).toUTF8)
  /-- The key sequence of a table at its beginning. -/
  | key {name : String} {t : Table} (ht : db.table? name = some t) :
      Makes db t.keyPath (.file "1".toUTF8)
  /-- A temporary sibling. -/
  | temporary {p : Path} (h : db.Temporary p) (node : Node) : Makes db p node

/-- The second tree has the nodes of the first one and those that opening may make. -/
structure Completes (db : Database) (before after : FileTree) : Prop where
  /-- What was there is there, except for temporary siblings. -/
  kept : ∀ p node, before.get? p = some node → ¬ db.Temporary p → after.get? p = some node
  /-- What was not there is what opening may make. -/
  made : ∀ p node, before.get? p = none → after.get? p = some node → db.Makes p node

variable {db : Database} {files after : FileTree} {name : String} {t : Table} {p : Path}
  {node : Node}

namespace Completes

theorem refl (db : Database) (files : FileTree) : db.Completes files files where
  kept _ _ h _ := h
  made _ _ hnone hsome := by
    rw [hnone] at hsome
    cases hsome

theorem trans {before between after : FileTree} (h : db.Completes before between)
    (h' : db.Completes between after) : db.Completes before after where
  kept p node hnode htemp := h'.kept p node (h.kept p node hnode htemp) htemp
  made p node hnone hnode := by
    cases hbetween : between.get? p with
    | none => exact h'.made p node hbetween hnode
    | some made =>
        by_cases htemp : db.Temporary p
        · exact .temporary htemp node
        · have hsame := h'.kept p made hbetween htemp
          rw [hnode, Option.some.injEq] at hsame
          rw [hsame]
          exact h.made p made hnone hbetween

/-- An action completes the tree that it finds if it completes every tree. -/
theorem keeps {x : Storage α} (h : ∀ files, db.Completes files (stateOf (x files)))
    (before : FileTree) : Keeps (db.Completes before) x :=
  fun files hfiles => hfiles.trans (h files)

end Completes

/-! ## Paths -/

/-- A name that does not end like that of a temporary sibling. -/
theorem not_temporary {dir : Path} {entry : String} (h : entry.toList.getLast? ≠ some 'p') :
    ¬ db.Temporary (dir.entry entry) := by
  rintro ⟨name, t, -, heq | heq⟩
  · rw [Table.sheetPath, Storage.temporary_entry, Path.entry.injEq] at heq
    exact h (heq.2 ▸ Table.getLast?_temporary _)
  · rw [Table.keyPath, Storage.temporary_entry, Path.entry.injEq] at heq
    exact h (heq.2 ▸ Table.getLast?_temporary _)

theorem not_temporary_sheetPath (t : Table) : ¬ db.Temporary (t.sheetPath .first) :=
  not_temporary (by rw [SheetNumber.fileName_getLast?]; decide)

theorem not_temporary_keyPath (t : Table) : ¬ db.Temporary t.keyPath :=
  not_temporary (by simp)

/-- All that is made lies in the directory of the database or is a directory around it. -/
theorem Makes.holds (h : db.Makes p node) :
    db.dir.holds p = true ∨ node = .directory ∧ p.holds db.root = true := by
  have hinside : ∀ {name t}, db.table? name = some t → ∀ entry,
      db.dir.holds (t.dir.entry entry) = true := by
    intro name t ht entry
    rw [dir_of_table? ht, Path.holds, Path.holds_entry, Bool.or_true]
  cases h with
  | directory h =>
      rw [dir, Path.holds, Bool.or_eq_true, beq_iff_eq] at h
      rcases h with rfl | h
      · exact .inl (Path.holds_self _)
      · exact .inr ⟨rfl, h⟩
  | tableDirectory ht =>
      rw [dir_of_table? ht]
      exact .inl (Path.holds_entry _ _)
  | sheet ht => exact .inl (hinside ht _)
  | key ht => exact .inl (hinside ht _)
  | temporary h _ =>
      obtain ⟨name, t, ht, rfl | rfl⟩ := h
      · exact .inl (hinside ht _)
      · exact .inl (hinside ht _)

/-- Tables with one directory are the same. -/
theorem eq_of_dir {other : String} {u : Table} (ht : db.table? name = some t)
    (hu : db.table? other = some u) (hdir : u.dir = t.dir) : u = t := by
  rw [dir_of_table? ht, dir_of_table? hu, Path.entry_inj] at hdir
  subst hdir
  exact Option.some.inj (hu.symm.trans ht)

/-- What is made in the directory of a table is its first sheet, its key sequence, or temporary. -/
theorem Makes.of_entry {entry : String} (h : db.Makes (t.dir.entry entry) node)
    (ht : db.table? name = some t) (htemp : ¬ db.Temporary (t.dir.entry entry)) :
    t.dir.entry entry = t.sheetPath .first ∧ node = .file (Record.line t.columns).toUTF8 ∨
      t.dir.entry entry = t.keyPath ∧ node = .file "1".toUTF8 := by
  obtain ⟨p, hp⟩ : ∃ p, p = t.dir.entry entry := ⟨_, rfl⟩
  rw [← hp] at h htemp ⊢
  cases h with
  | directory h =>
      have hdir := Path.holds_trans h (Path.holds_entry db.dir name)
      rw [hp, ← dir_of_table? ht, Path.not_holds_parent] at hdir
      cases hdir
  | tableDirectory hu =>
      rw [dir_of_table? hu, dir_of_table? ht, Path.entry.injEq] at hp
      exact absurd hp.1.symm (Path.entry_ne _ _)
  | sheet hu =>
      obtain rfl := eq_of_dir ht hu (Path.entry.inj hp).1
      exact .inl ⟨rfl, rfl⟩
  | key hu =>
      obtain rfl := eq_of_dir ht hu (Path.entry.inj hp).1
      exact .inr ⟨rfl, rfl⟩
  | temporary h _ => exact absurd h htemp

/-! ## Actions -/

/-- Making directories that may be made completes the tree. -/
theorem createDirAll_completes {path : Path}
    (hpath : ∀ q, q.holds path = true → db.Makes q .directory) (files : FileTree) :
    db.Completes files (stateOf (Storage.change path (·.createDirAll path) files)) := by
  cases hcreate : files.createDirAll path with
  | error cause =>
      rw [Storage.change_of_error hcreate]
      exact .refl db files
  | ok made =>
      rw [Storage.change_of_ok hcreate]
      have hview := FileTree.get?_of_createDirAll hcreate
      constructor
      · intro q node hnode _
        show made.get? q = some node
        rw [hview]
        split
        · rename_i hq
          rw [FileTree.eq_directory_of_createDirAll hcreate hq hnode]
        · exact hnode
      · intro q node hnone hnode
        rw [stateOf, hview] at hnode
        split at hnode
        · rename_i hq
          obtain rfl := Option.some.inj hnode
          exact hpath q hq
        · rw [hnone] at hnode
          cases hnode

/-- Making a file that may be made completes the tree. -/
theorem ensureText_completes {dir : Path} {entry text : String}
    (hfile : db.Makes (dir.entry entry) (.file text.toUTF8))
    (htemp : db.Temporary (Storage.temporary (dir.entry entry))) (files : FileTree) :
    db.Completes files (stateOf (Storage.ensureText (dir.entry entry) text files)) := by
  cases hcontains : files.contains (dir.entry entry) with
  | true =>
      rw [Storage.ensureText_of_contains hcontains]
      exact .refl db files
  | false =>
      have hmissing : files.get? (dir.entry entry) = none := by
        rw [FileTree.contains] at hcontains
        exact Option.not_isSome_iff_eq_none.1 (by simp [hcontains])
      rw [Storage.ensureText_of_missing hcontains]
      rcases Storage.replaceText_cases files dir entry text with
        ⟨after, hrun, -, hview⟩ | ⟨failure, after, hrun, hafter⟩
      · rw [hrun]
        constructor
        · intro q node hnode hq
          have hne : q ≠ dir.entry entry := by
            rintro rfl
            rw [hmissing] at hnode
            cases hnode
          have hne' : q ≠ Storage.temporary (dir.entry entry) := fun heq => hq (heq ▸ htemp)
          show after.get? q = some node
          rw [hview, if_neg hne, if_neg hne', hnode]
        · intro q node hnone hnode
          rw [stateOf, hview] at hnode
          split at hnode
          · rename_i heq
            obtain rfl := Option.some.inj hnode
            exact heq ▸ hfile
          · split at hnode
            · cases hnode
            · rw [hnone] at hnode
              cases hnode
      · rw [hrun]
        rcases hafter with rfl | ⟨-, hsame⟩
        · exact .refl db _
        · constructor
          · intro q node hnode hq
            rw [stateOf, hsame q fun heq => hq (heq ▸ htemp), hnode]
          · intro q node hnone hnode
            by_cases heq : q = Storage.temporary (dir.entry entry)
            · exact .temporary (heq ▸ htemp) node
            · rw [stateOf, hsame q heq, hnone] at hnode
              cases hnode

/-- Making what is missing of a table completes the tree. -/
theorem table_ensure_keeps (ht : db.table? name = some t) (before : FileTree) :
    Keeps (db.Completes before) t.ensure := by
  have hdir : ∀ q, q.holds t.dir = true → db.Makes q .directory := by
    intro q hq
    rw [dir_of_table? ht, Path.holds, Bool.or_eq_true, beq_iff_eq] at hq
    rcases hq with rfl | hq
    · rw [← dir_of_table? ht]
      exact .tableDirectory ht
    · exact .directory hq
  have hsheet : db.Temporary (Storage.temporary (t.sheetPath .first)) := ⟨name, t, ht, .inl rfl⟩
  have hkey : db.Temporary (Storage.temporary t.keyPath) := ⟨name, t, ht, .inr rfl⟩
  exact (Completes.keeps (createDirAll_completes hdir) before).bind fun _ =>
    (Completes.keeps (ensureText_completes (.sheet ht) hsheet) before).bind fun _ =>
      Completes.keeps (ensureText_completes (.key ht) hkey) before

theorem ensureTables_keeps {ts : List Table} (hts : ∀ t ∈ ts, db.table? t.name = some t)
    (before : FileTree) : Keeps (db.Completes before) (ensureTables ts) := by
  induction ts with
  | nil => exact .pure ()
  | cons t rest ih =>
      rw [List.forall_mem_cons] at hts
      exact (table_ensure_keeps hts.1 before).bind fun _ => ih hts.2

/-- Whether it succeeds or not, making what is missing of a database completes the tree. -/
theorem ensure_completes (db : Database) (files : FileTree) :
    db.Completes files (stateOf (db.ensure files)) := by
  have hdir : Keeps (db.Completes files) (Storage.change db.dir (·.createDirAll db.dir)) :=
    Completes.keeps (createDirAll_completes fun _ hq => .directory hq) files
  have hensure : Keeps (db.Completes files) db.ensure := hdir.bind fun _ =>
    ensureTables_keeps (fun _ ht => table?_of_mem_allTables ht) files
  exact hensure files (.refl db files)

/-! ## Where opening succeeds -/

theorem Completes.contains {before : FileTree} (h : db.Completes before after)
    (htemp : ¬ db.Temporary p) (hp : before.contains p = true) : after.contains p = true := by
  obtain ⟨node, hnode⟩ := Option.isSome_iff_exists.1 hp
  rw [FileTree.contains, h.kept p node hnode htemp]
  rfl

theorem Completes.hasFiles {before : FileTree} (h : db.Completes before after)
    (hfiles : t.HasFiles before) : t.HasFiles after :=
  ⟨h.contains (not_temporary_sheetPath t) hfiles.first,
    h.contains (not_temporary_keyPath t) hfiles.key⟩

/-- A table that was made has its files. -/
theorem hasFiles_of_ensure (ht : db.table? name = some t) (h : t.ensure files = .ok () after) :
    t.HasFiles after := by
  rw [Table.ensure] at h
  obtain ⟨_, made, -, h⟩ := of_bind_eq_ok h
  obtain ⟨_, sheeted, hsheet, hkey⟩ := of_bind_eq_ok h
  have hcompletes := ensureText_completes (.key ht) ⟨name, t, ht, .inr rfl⟩ sheeted
  rw [← Table.keyPath, hkey] at hcompletes
  exact ⟨hcompletes.contains (not_temporary_sheetPath t) (Storage.contains_of_ensureText hsheet),
    Storage.contains_of_ensureText hkey⟩

theorem hasFiles_of_ensureTables {ts : List Table} (hts : ∀ t ∈ ts, db.table? t.name = some t)
    (h : ensureTables ts files = .ok () after) : ∀ t ∈ ts, t.HasFiles after := by
  induction ts generalizing files with
  | nil => exact List.forall_mem_nil _
  | cons t rest ih =>
      rw [List.forall_mem_cons] at hts
      rw [ensureTables] at h
      obtain ⟨_, made, hmade, h⟩ := of_bind_eq_ok h
      have hcompletes := ensureTables_keeps hts.2 made made (.refl db made)
      rw [h] at hcompletes
      rw [List.forall_mem_cons]
      exact ⟨hcompletes.hasFiles (hasFiles_of_ensure hts.1 hmade), ih hts.2 h⟩

/-- A database that was opened has the files of all its tables. -/
theorem hasFiles_of_open {opened : Database}
    (h : openAt db.root db.schema db.joinMode files = .ok opened after) :
    ∀ t ∈ db.allTables, t.HasFiles after := by
  rw [openAt] at h
  obtain ⟨_, ensured, hensure, h⟩ := of_bind_eq_ok h
  cases h
  rw [ensure] at hensure
  obtain ⟨_, made, -, htables⟩ := of_bind_eq_ok hensure
  exact hasFiles_of_ensureTables (fun t ht => table?_of_mem_allTables ht) htables

/-- Whatever is there, opening touches nothing of it but temporary siblings, and makes nothing
outside the directory of the database but directories around it.  Where it succeeds, every table has
its first sheet and its key sequence, new ones where they were missing, and opening again in any mode
changes nothing. -/
theorem openAt_completes (hvalid : db.schema.validate = .ok ()) (files : FileTree) :
    let after := stateOf (openAt db.root db.schema db.joinMode files)
    (∀ p node, files.get? p = some node → ¬ db.Temporary p → after.get? p = some node) ∧
      (∀ p node, files.get? p = none → after.get? p = some node →
        db.dir.holds p = true ∨ node = .directory ∧ p.holds db.root = true) ∧
      ∀ opened, answerOf (openAt db.root db.schema db.joinMode files) = .ok opened →
        (∀ name t, db.table? name = some t →
          (∃ node, after.get? (t.sheetPath .first) = some node ∧
            (files.get? (t.sheetPath .first) = none →
              node = .file (Record.line t.columns).toUTF8)) ∧
          ∃ node, after.get? t.keyPath = some node ∧
            (files.get? t.keyPath = none → node = .file "1".toUTF8)) ∧
        ∀ mode, openAt db.root db.schema mode after
          = .ok { root := db.root, schema := db.schema, joinMode := mode } after := by
  intro after
  have hcompletes : db.Completes files after := by
    rw [show after = stateOf (db.ensure files) from stateOf_openAt db files]
    exact ensure_completes db files
  refine ⟨hcompletes.kept, fun p node hnone hnode => (hcompletes.made p node hnone hnode).holds,
    fun opened hopened => ?_⟩
  have hfiles := hasFiles_of_open (eq_ok_of_answerOf hopened)
  refine ⟨fun name t ht => ?_, fun mode => ?_⟩
  · obtain ⟨hfirst, hkey⟩ := hfiles t (mem_allTables_of_table? ht)
    obtain ⟨first, hfirst⟩ := Option.isSome_iff_exists.1 hfirst
    obtain ⟨key, hkey⟩ := Option.isSome_iff_exists.1 hkey
    refine ⟨⟨first, hfirst, fun hnone => ?_⟩, key, hkey, fun hnone => ?_⟩
    · have hmade := hcompletes.made _ _ hnone hfirst
      rcases hmade.of_entry ht (not_temporary_sheetPath t) with ⟨-, hnode⟩ | ⟨heq, -⟩
      · exact hnode
      · exact absurd heq.symm (Table.keyPath_ne_sheetPath t .first)
    · have hmade := hcompletes.made _ _ hnone hkey
      rcases hmade.of_entry ht (not_temporary_keyPath t) with ⟨heq, -⟩ | ⟨-, hnode⟩
      · exact absurd heq (Table.keyPath_ne_sheetPath t .first)
      · exact hnode
  · have hvalid' : (db.withMode mode).schema.validate = .ok () := hvalid
    exact open_of_hasFiles hvalid' hfiles

/-- A sheet that cannot be read, no key sequence, a temporary sibling of it, and nothing of the other
table.  The sheet stays as it is, and the key sequence is made. -/
theorem sample_openAt_completes :
    let files := (((FileTree.empty.put sample.root "cellar" .directory).put sample.dir "beer"
      .directory).put sampleBeer.dir "1.csv" (.file "damaged".toUTF8)).put sampleBeer.dir
        "beer_pk_sequence.tmp" (.file "7".toUTF8)
    let after := stateOf (openAt sample.root sample.schema sample.joinMode files)
    after.get? (sampleBeer.sheetPath .first) = some (.file "damaged".toUTF8) ∧
      after.get? sampleBeer.keyPath = some (.file "1".toUTF8) ∧
      openAt sample.root sample.schema .perTable after = .ok (sample.withMode .perTable) after := by
  intro files after
  have hensure : answerOf (sample.ensure files) = .ok () := by decide +kernel
  have hopen : answerOf (openAt sample.root sample.schema sample.joinMode files) = .ok sample :=
    congrArg answerOf (bind_of_ok (eq_ok_of_answerOf hensure))
  have hsheet : files.get? (sampleBeer.sheetPath .first) = some (.file "damaged".toUTF8) := by
    decide +kernel
  have hkey : files.get? sampleBeer.keyPath = none := by decide +kernel
  obtain ⟨hkept, -, hsucceeds⟩ := openAt_completes validate_sample files
  obtain ⟨htables, hagain⟩ := hsucceeds sample hopen
  obtain ⟨-, node, hnode, hnew⟩ := htables "beer" sampleBeer table?_sample_beer
  refine ⟨hkept _ _ hsheet (not_temporary_sheetPath sampleBeer), ?_, hagain .perTable⟩
  rw [hnode, hnew hkey]

end Database

end SheetStore
