import SheetStore.Storage
import SheetStore.Proofs.Results
import SheetStore.Proofs.Files.Below

/-!
# What the operations leave

Each operation that a database uses is equal to a primitive change of the tree where it succeeds, or
its view is given: writing, appending and replacing a file put one node (`write_eq_put`,
`append_eq_put`, `Storage.replaceText_eq_put`), making a directory makes those around it
(`get?_of_createDirAll`), and removing one leaves nothing below it (`get?_dropAll_of_entry`).

In a tree of which nothing is known, replacing a file can fail at each of its two steps.
`Storage.replaceText_cases` says all that it can leave.
-/

namespace SheetStore

namespace FileTree

variable {t t' : FileTree} {dir p : Path} {name : String}

/-! ## Directories -/

theorem createDirAll_of_directory (h : t.get? p = some .directory) : t.createDirAll p = .ok t := by
  cases p with
  | base => rfl
  | entry dir name => simp only [createDirAll, h]

/-- Making a directory makes every path that holds it a directory, and nothing else. -/
theorem get?_of_createDirAll (h : t.createDirAll p = .ok t') (q : Path) :
    t'.get? q = if q.holds p then some .directory else t.get? q := by
  induction p generalizing t' q with
  | base s =>
      cases h
      split
      · rename_i hq
        rw [Path.holds, beq_iff_eq] at hq
        rw [hq, get?_base]
      · rfl
  | entry dir name ih =>
      rw [createDirAll] at h
      split at h
      · rename_i hdirectory
        cases h
        split
        · rename_i hq
          exact get?_of_holds_directory hdirectory hq
        · rfl
      · cases h
      · rename_i hnone
        split at h
        · rename_i made hmade
          cases h
          have hdir : made.get? dir = some .directory := by
            rw [ih hmade, if_pos (Path.holds_self dir)]
          rw [get?_put hdir (.inl rfl), ih hmade, Path.holds]
          by_cases heq : q = .entry dir name
          · simp [heq]
          · simp [heq]
        · cases h
        · cases h

theorem get?_createDirAll_self (h : t.createDirAll p = .ok t') : t'.get? p = some .directory := by
  rw [get?_of_createDirAll h, if_pos (Path.holds_self p)]

/-- A directory can be made only where directories stand around it. -/
theorem eq_directory_of_createDirAll (h : t.createDirAll p = .ok t') {q : Path} {node : Node}
    (hq : q.holds p = true) (hnode : t.get? q = some node) : node = .directory := by
  induction p generalizing t' with
  | base s =>
      rw [Path.holds, beq_iff_eq] at hq
      rw [hq, get?_base] at hnode
      exact (Option.some.inj hnode).symm
  | entry dir name ih =>
      rw [createDirAll] at h
      split at h
      · rename_i hdirectory
        rw [get?_of_holds_directory hdirectory hq] at hnode
        exact (Option.some.inj hnode).symm
      · cases h
      · rename_i hnone
        rw [Path.holds, Bool.or_eq_true, beq_iff_eq] at hq
        rcases hq with rfl | hq
        · rw [hnone] at hnode
          cases hnode
        · split at h
          · rename_i made hmade
            exact ih hmade hq
          · cases h
          · cases h

/-- Below a directory another one can be made where there is nothing. -/
theorem createDirAll_entry (hdir : t.get? dir = some .directory)
    (hnone : t.get? (.entry dir name) = none) :
    t.createDirAll (.entry dir name) = .ok (t.put dir name .directory) := by
  simp only [createDirAll, hnone, createDirAll_of_directory hdir]

/-- Below a directory that can be made, one more can be made. -/
theorem createDirAll_entry_of_ok (h : t.createDirAll dir = .ok t')
    (hnone : t.get? (.entry dir name) = none) :
    t.createDirAll (.entry dir name) = .ok (t'.put dir name .directory) := by
  simp only [createDirAll, hnone, h]

theorem removeDirAll_of_directory (h : t.get? p = some .directory) :
    t.removeDirAll p = .ok (t.dropAll p) := by
  simp only [removeDirAll, h]

/-- Nothing is left below an entry that is dropped with everything in it. -/
theorem get?_dropAll_of_entry (t : FileTree) (dir : Path) (name : String) (q : Path) :
    (t.dropAll (.entry dir name)).get? q
      = if (Path.entry dir name).holds q then none else t.get? q := by
  cases q with
  | base s => simp [Path.holds]
  | entry d n => exact get?_dropAll t (.entry dir name) d n

/-! ## Files -/

theorem write_eq_put {contents : ByteArray} (hdir : t.get? dir = some .directory)
    (hfree : t.get? (.entry dir name) ≠ some .directory) :
    t.write (.entry dir name) contents = .ok (t.put dir name (.file contents)) := by
  simp [write, isDirectory, hdir, hfree]

theorem append_eq_put {contents : ByteArray} (more : ByteArray)
    (hfile : t.get? (.entry dir name) = some (.file contents)) :
    t.append (.entry dir name) more = .ok (t.put dir name (.file (contents ++ more))) := by
  have hread : t.read (.entry dir name) = .ok contents := by simp only [read, hfile]
  rw [append, hread]
  exact write_eq_put (get?_parent hfile) (by rw [hfile]; simp)

/-- The text of a file that was written as text. -/
theorem readText_of_get? {text : String} (h : t.get? p = some (.file text.toUTF8)) :
    t.readText p = .ok text := by
  have hread : t.read p = .ok text.toUTF8 := by simp only [read, h]
  have htext : String.fromUTF8? text.toUTF8 = some text := by
    rw [String.toUTF8_eq_toByteArray, String.fromUTF8?, dif_pos text.isValidUTF8]
    rfl
  simp only [readText, hread, htext]

/-- In a directory, the text of an entry depends on its node. -/
theorem readText_congr (hdir : t.get? dir = some .directory)
    (hdir' : t'.get? dir = some .directory)
    (h : t'.get? (.entry dir name) = t.get? (.entry dir name)) :
    t'.readText (.entry dir name) = t.readText (.entry dir name) := by
  have hread : t'.read (.entry dir name) = t.read (.entry dir name) := by
    simp only [read, h, missing, hdir, hdir']
  rw [readText, readText, hread]

/-- What is read stands in the file. -/
theorem get?_of_read {contents : ByteArray} (h : t.read p = .ok contents) :
    t.get? p = some (.file contents) := by
  unfold read at h
  split at h
  · rename_i hnode
    cases h
    exact hnode
  · cases h
  · cases h

/-- A text that is read stands in the file as its bytes. -/
theorem get?_of_readText {text : String} (h : t.readText p = .ok text) :
    t.get? p = some (.file text.toUTF8) := by
  unfold readText at h
  split at h
  · cases h
  · rename_i contents hread
    rw [get?_of_read hread]
    unfold String.fromUTF8? at h
    split at h
    · rename_i s hs
      split at hs
      · cases hs
        cases h
        rfl
      · cases hs
    · cases h

/-- A directory lists each of its entries once. -/
theorem exists_list (h : t.get? dir = some .directory) :
    ∃ entries, t.list dir = .ok entries ∧ (entries.map Prod.fst).Nodup ∧
      ∀ name node, (name, node) ∈ entries ↔ t.get? (.entry dir name) = some node := by
  simp only [list, h]
  refine ⟨_, rfl, ?_, ?_⟩
  · have hkeys : (t.entries.toList.map Prod.fst).Nodup := by
      rw [Std.ExtTreeMap.map_fst_toList_eq_keys]
      exact Std.ExtTreeMap.nodup_keys
    rw [List.Nodup, List.pairwise_map] at hkeys
    rw [List.Nodup, List.pairwise_map, List.pairwise_filterMap]
    refine hkeys.imp ?_
    rintro ⟨p, node⟩ ⟨q, node'⟩ hne a ha b hb
    cases p with
    | base => simp at ha
    | entry d n =>
        cases q with
        | base => simp at hb
        | entry d' n' =>
            simp only [Option.ite_none_right_eq_some, Option.some.injEq] at ha hb
            obtain ⟨rfl, rfl⟩ := ha
            obtain ⟨rfl, rfl⟩ := hb
            exact fun heq => hne (by simpa using heq)
  · intro name node
    rw [List.mem_filterMap, get?_entry]
    constructor
    · rintro ⟨⟨p, node'⟩, hmem, hp⟩
      cases p with
      | base => simp at hp
      | entry d n =>
          simp only [Option.ite_none_right_eq_some, Option.some.injEq, Prod.mk.injEq] at hp
          obtain ⟨rfl, rfl, rfl⟩ := hp
          exact Std.ExtTreeMap.mem_toList_iff_getElem?_eq_some.1 hmem
    · intro hget
      exact ⟨(.entry dir name, node), Std.ExtTreeMap.mem_toList_iff_getElem?_eq_some.2 hget,
        by simp⟩

end FileTree

/-! ## Replacing a file -/

namespace Storage

variable {t : FileTree} {dir : Path} {name : String}

theorem reading_of_ok {question : FileTree → Except Failure α} {a : α} (h : question t = .ok a) :
    reading question t = .ok a t := by
  simp only [reading, h]

theorem reading_of_error {question : FileTree → Except Failure α} {failure : Failure}
    (h : question t = .error failure) : reading question t = .error failure t := by
  simp only [reading, h]

theorem change_of_ok {path : Path} {operation : FileTree → Except FileError FileTree}
    {t' : FileTree} (h : operation t = .ok t') : change path operation t = .ok () t' := by
  simp only [change, h]

theorem change_of_error {path : Path} {operation : FileTree → Except FileError FileTree}
    {cause : FileError} (h : operation t = .error cause) :
    change path operation t = .error (.storage path cause) t := by
  simp only [change, h]

theorem temporary_entry (dir : Path) (name : String) :
    temporary (.entry dir name) = .entry dir (name ++ ".tmp") := rfl

theorem temporary_inj {dir : Path} {a b : String} :
    temporary (.entry dir a) = temporary (.entry dir b) ↔ a = b := by
  rw [temporary_entry, temporary_entry, Path.entry_inj]
  simp [← String.toList_inj]

theorem temporary_ne (dir : Path) (name : String) :
    temporary (.entry dir name) ≠ .entry dir name := by
  rw [temporary_entry, ne_eq, Path.entry_inj]
  intro h
  have := congrArg (List.length ∘ String.toList) h
  simp at this

/-- A text that was written to the sibling and moved is in the file, and the sibling is gone. -/
theorem replaceText_of_rename {text : String} {t₁ t' : FileTree}
    (hwrite : t.write (temporary (.entry dir name)) text.toUTF8 = .ok t₁)
    (hrename : t₁.rename (temporary (.entry dir name)) (.entry dir name) = .ok t') :
    replaceText (.entry dir name) text t = .ok () t' ∧ ∀ q, t'.get? q =
      if q = .entry dir name then some (.file text.toUTF8)
      else if q = temporary (.entry dir name) then none
      else t.get? q := by
  refine ⟨(bind_of_ok (change_of_ok hwrite)).trans (change_of_ok hrename), fun q => ?_⟩
  obtain ⟨contents, hcontents, hview⟩ := FileTree.get?_of_rename hrename
  rw [FileTree.get?_of_write hwrite, if_pos rfl, Option.some.injEq, Node.file.injEq] at hcontents
  rw [hview, FileTree.get?_of_write hwrite, hcontents]
  by_cases hq : q = temporary (.entry dir name)
  · simp [hq]
  · simp [hq]

/-- A replacement puts the text into the file and takes the sibling away, or it fails.  Then the
sibling may be left, and nothing else has changed. -/
theorem replaceText_cases (t : FileTree) (dir : Path) (name text : String) :
    (∃ t', replaceText (.entry dir name) text t = .ok () t' ∧
      t.get? dir = some .directory ∧ ∀ q, t'.get? q =
        if q = .entry dir name then some (.file text.toUTF8)
        else if q = temporary (.entry dir name) then none
        else t.get? q) ∨
    ∃ failure t', replaceText (.entry dir name) text t = .error failure t' ∧
      (t' = t ∨ t.get? dir = some .directory ∧
        ∀ q, q ≠ temporary (.entry dir name) → t'.get? q = t.get? q) := by
  cases hwrite : t.write (temporary (.entry dir name)) text.toUTF8 with
  | error cause =>
      exact .inr ⟨_, t, bind_of_error (change_of_error hwrite), .inl rfl⟩
  | ok t₁ =>
      have hview := FileTree.get?_of_write hwrite
      have hdir : t.get? dir = some .directory := by
        have hparent : t₁.get? dir = some .directory :=
          FileTree.get?_parent (by rw [hview, temporary_entry, if_pos rfl])
        rwa [hview, temporary_entry, if_neg (Path.entry_ne _ _).symm] at hparent
      cases hrename : t₁.rename (temporary (.entry dir name)) (.entry dir name) with
      | error cause =>
          refine .inr ⟨_, t₁, (bind_of_ok (change_of_ok hwrite)).trans
            (change_of_error hrename), .inr ⟨hdir, fun q hq => ?_⟩⟩
          rw [hview, if_neg hq]
      | ok t' =>
          obtain ⟨hrun, hafter⟩ := replaceText_of_rename hwrite hrename
          exact .inl ⟨t', hrun, hdir, hafter⟩

/-- A file is replaced if neither it nor its sibling is a directory. -/
theorem exists_replaceText (text : String) (hdir : t.get? dir = some .directory)
    (hfree : t.get? (.entry dir name) ≠ some .directory)
    (htemp : t.get? (temporary (.entry dir name)) ≠ some .directory) :
    ∃ t', replaceText (.entry dir name) text t = .ok () t' ∧ ∀ q, t'.get? q =
      if q = .entry dir name then some (.file text.toUTF8)
      else if q = temporary (.entry dir name) then none
      else t.get? q := by
  -- the tree between the two steps, with the sibling in it
  obtain ⟨t₁, hwrite⟩ : ∃ t₁, t.write (temporary (.entry dir name)) text.toUTF8 = .ok t₁ :=
    ⟨_, FileTree.write_eq_put hdir htemp⟩
  have hview := FileTree.get?_of_write hwrite
  have hread : t₁.read (temporary (.entry dir name)) = .ok text.toUTF8 :=
    FileTree.read_of_write hwrite
  have hdir₁ : t₁.get? dir = some .directory := by
    rw [hview, temporary_entry, if_neg (Path.entry_ne dir _).symm, hdir]
  have hfree₁ : t₁.get? (.entry dir name) ≠ some .directory := by
    rw [hview, if_neg (temporary_ne dir name).symm]
    exact hfree
  obtain ⟨t', hrename⟩ : ∃ t',
      t₁.rename (temporary (.entry dir name)) (.entry dir name) = .ok t' := by
    simp only [FileTree.rename, hread, FileTree.write_eq_put hdir₁ hfree₁]
    exact ⟨_, rfl⟩
  exact ⟨t', replaceText_of_rename hwrite hrename⟩

/-- A directory in the place of the sibling stops a replacement before it changes anything. -/
theorem replaceText_of_directory {text : String}
    (htemp : t.get? (temporary (.entry dir name)) = some .directory) :
    replaceText (.entry dir name) text t
      = .error (.storage (temporary (.entry dir name)) .isADirectory) t := by
  refine bind_of_error (change_of_error ?_)
  rw [temporary_entry] at htemp
  simp only [temporary_entry, FileTree.write, FileTree.isDirectory, htemp, decide_true, if_true]

/-- Where no temporary sibling is in the way, replacing a file changes that file alone. -/
theorem replaceText_eq_put {text : String} (hdir : t.get? dir = some .directory)
    (hfree : t.get? (.entry dir name) ≠ some .directory)
    (htemp : t.get? (temporary (.entry dir name)) = none) :
    replaceText (.entry dir name) text t = .ok () (t.put dir name (.file text.toUTF8)) := by
  obtain ⟨t', hrun, hview⟩ := exists_replaceText text hdir hfree (by rw [htemp]; simp)
  rw [hrun]
  refine congrArg (EStateM.Result.ok ()) (FileTree.ext_get? fun q => ?_)
  rw [hview, FileTree.get?_put hdir (.inr hfree)]
  by_cases hq : q = temporary (.entry dir name)
  · rw [hq, if_pos rfl, htemp]
  · rw [if_neg hq]

theorem ensureText_of_contains {path : Path} {text : String} (h : t.contains path = true) :
    ensureText path text t = .ok () t := by
  have hget : (get : Storage FileTree) t = .ok t t := rfl
  rw [ensureText, bind_of_ok hget, h]
  rfl

theorem ensureText_of_missing {path : Path} {text : String} (h : t.contains path = false) :
    ensureText path text t = replaceText path text t := by
  have hget : (get : Storage FileTree) t = .ok t t := rfl
  rw [ensureText, bind_of_ok hget, h]
  rfl

/-- Where this succeeds, there is something at the path. -/
theorem contains_of_ensureText {text : String} {t' : FileTree}
    (h : ensureText (.entry dir name) text t = .ok () t') :
    t'.contains (.entry dir name) = true := by
  cases hcontains : t.contains (.entry dir name) with
  | true =>
      rw [ensureText_of_contains hcontains] at h
      cases h
      exact hcontains
  | false =>
      rw [ensureText_of_missing hcontains] at h
      rcases replaceText_cases t dir name text with ⟨after, hrun, -, hview⟩ | ⟨_, _, hfails, -⟩
      · cases hrun.symm.trans h
        rw [FileTree.contains, hview, if_pos rfl]
        rfl
      · cases hfails.symm.trans h

/-- Where there is nothing, a file is made. -/
theorem exists_ensureText (text : String) (hdir : t.get? dir = some .directory)
    (hnone : t.get? (.entry dir name) = none)
    (htemp : t.get? (temporary (.entry dir name)) = none) :
    ∃ t', ensureText (.entry dir name) text t = .ok () t' ∧ ∀ q, t'.get? q =
      if q = .entry dir name then some (.file text.toUTF8) else t.get? q := by
  have hfree : t.get? (.entry dir name) ≠ some .directory := by
    rw [hnone]
    simp
  refine ⟨_, ?_, FileTree.get?_put hdir (.inr hfree)⟩
  rw [ensureText_of_missing (by rw [FileTree.contains, hnone]; rfl)]
  exact replaceText_eq_put hdir hfree htemp

end Storage

end SheetStore
