import SheetStore.Proofs.Checks
import SheetStore.Proofs.Sheet.Appending
import SheetStore.Proofs.Table.Questions

/-!
# Insertion in any file tree

An insertion reads first: the next key, the numbers of the sheets, and the sheets up to the first
with room (`Table.Reads`).  If one of these reads fails, nothing has changed (`insert_cases`).  Then
come two writes, the record (`Table.putRecord`) and the next key.  In a tree of which nothing is
known each of them can fail, and both only ever touch four paths of the table: the sheet, the key
sequence and their temporary siblings.
-/

namespace SheetStore

namespace Table

variable {t : Table} {files after : FileTree} {limit key : Nat} {numbers : List SheetNumber}
  {found : Option SheetNumber} {record : Record} {values : List String}

/-! ## Paths of a table -/

theorem entry_ne_of_getLast? {dir : Path} {a b : String}
    (h : a.toList.getLast? ≠ b.toList.getLast?) : Path.entry dir a ≠ .entry dir b := by
  rw [ne_eq, Path.entry_inj]
  exact fun heq => h (by rw [heq])

theorem getLast?_temporary (name : String) : (name ++ ".tmp").toList.getLast? = some 'p' := by
  simp

theorem sheetPath_ne_temporary (t : Table) (n : SheetNumber) (name : String) :
    t.sheetPath n ≠ Storage.temporary (t.dir.entry name) :=
  entry_ne_of_getLast? (by
    rw [SheetNumber.fileName_getLast?, getLast?_temporary]
    decide)

theorem keyPath_ne_temporary (t : Table) (name : String) :
    t.keyPath ≠ Storage.temporary (t.dir.entry name) :=
  entry_ne_of_getLast? (by
    rw [getLast?_temporary]
    simp)

theorem temporary_keyPath_ne (t : Table) (n : SheetNumber) :
    Storage.temporary t.keyPath ≠ Storage.temporary (t.sheetPath n) := by
  intro heq
  rw [keyPath, sheetPath, Storage.temporary_inj] at heq
  exact keyPath_ne_sheetPath t n (congrArg (Path.entry t.dir) heq)

/-! ## Reading -/

/-- What an insertion reads before it writes. -/
structure Reads (t : Table) (limit : Nat) (files : FileTree) (key : Nat)
    (numbers : List SheetNumber) (found : Option SheetNumber) : Prop where
  /-- The next key. -/
  nextKey : t.nextKey files = .ok key
  /-- The numbers of the sheets. -/
  sheetNumbers : t.sheetNumbers files = .ok numbers
  /-- The first sheet with room, if there is one. -/
  firstWithRoom : t.firstWithRoom? limit files numbers = .ok found

/-- The number of the sheet that gets the record: the one that was found, or the next one. -/
def targetNumber (numbers : List SheetNumber) (found : Option SheetNumber) : SheetNumber :=
  found.getD ((numbers.getLast?.map SheetNumber.next).getD .first)

/-- Puts a record on the sheet that was found, or on a new one. -/
def putRecord (t : Table) (numbers : List SheetNumber) (record : Record) :
    Option SheetNumber → Storage Unit
  | some n => t.appendRecord n record
  | none => t.writeSheet (targetNumber numbers none) [record]

/-- An insertion reads, and then it writes. -/
theorem insert_eq (t : Table) (limit : Nat) (values : List String) : t.insert limit values = (do
    let key ← Storage.reading t.nextKey
    let numbers ← Storage.reading t.sheetNumbers
    let found ← Storage.reading (t.firstWithRoom? limit · numbers)
    t.putRecord numbers (keyedRecord key values) found
    t.setNextKey (key + 1)
    return key) := by
  rw [insert]
  refine bind_congr fun key => bind_congr fun numbers => bind_congr fun found => ?_
  cases found <;> rfl

/-- An insertion that cannot read what it needs changes nothing. -/
theorem insert_cases (t : Table) (limit : Nat) (values : List String) (files : FileTree) :
    (∃ failure, t.insert limit values files = .error failure files) ∨
      ∃ key numbers found, t.Reads limit files key numbers found := by
  rw [insert]
  cases hkey : t.nextKey files with
  | error failure => exact .inl ⟨failure, bind_of_error (Storage.reading_of_error hkey)⟩
  | ok key =>
      rw [bind_of_ok (Storage.reading_of_ok hkey)]
      cases hnumbers : t.sheetNumbers files with
      | error failure => exact .inl ⟨failure, bind_of_error (Storage.reading_of_error hnumbers)⟩
      | ok numbers =>
          rw [bind_of_ok (Storage.reading_of_ok hnumbers)]
          cases hfound : t.firstWithRoom? limit files numbers with
          | error failure =>
              exact .inl ⟨failure, bind_of_error (Storage.reading_of_error hfound)⟩
          | ok found => exact .inr ⟨key, numbers, found, hkey, hnumbers, hfound⟩

/-- After reading, the record is put and then the key. -/
theorem Reads.insert_eq (h : t.Reads limit files key numbers found) (values : List String) :
    t.insert limit values files = (do
      t.putRecord numbers (keyedRecord key values) found
      t.setNextKey (key + 1)
      return key : Storage Nat) files := by
  rw [Table.insert_eq, bind_of_ok (Storage.reading_of_ok h.nextKey),
    bind_of_ok (Storage.reading_of_ok h.sheetNumbers),
    bind_of_ok (Storage.reading_of_ok h.firstWithRoom)]

/-- The sheet that is found is the first of those that can be read with room. -/
theorem of_firstWithRoom? {n : SheetNumber}
    (h : t.firstWithRoom? limit files numbers = .ok (some n)) :
    n ∈ numbers ∧ ∃ sheet, t.readSheet n files = .ok sheet ∧ sheet.length < limit := by
  induction numbers with
  | nil => cases h
  | cons m rest ih =>
      rw [firstWithRoom?] at h
      obtain ⟨sheet, hsheet, h⟩ := of_bind_ok h
      split at h
      · rename_i hroom
        cases h
        exact ⟨List.mem_cons_self, sheet, hsheet, hroom⟩
      · obtain ⟨hmem, hfound⟩ := ih h
        exact ⟨List.mem_cons_of_mem _ hmem, hfound⟩

theorem Reads.directory (h : t.Reads limit files key numbers found) :
    files.get? t.dir = some .directory := directory_of_sheetNumbers h.sheetNumbers

theorem Reads.keyFile (h : t.Reads limit files key numbers found) :
    ∃ contents, files.get? t.keyPath = some (.file contents) := by
  have hkey := h.nextKey
  rw [Table.nextKey] at hkey
  split at hkey
  · cases hkey
  · rename_i text htext
    exact ⟨_, FileTree.get?_of_readText htext⟩

/-! ## Writing -/

/-- A record is added to a file that is there, or nothing changes. -/
theorem appendRecord_cases (t : Table) (n : SheetNumber) (record : Record) (files : FileTree) :
    (∃ contents after, t.appendRecord n record files = .ok () after ∧
      files.get? (t.sheetPath n) = some (.file contents) ∧ ∀ q, after.get? q =
        if q = t.sheetPath n then some (.file (contents ++ record.line.toUTF8))
        else files.get? q) ∨
    ∃ failure, t.appendRecord n record files = .error failure files := by
  cases happend : files.append (t.sheetPath n) record.line.toUTF8 with
  | error cause => exact .inr ⟨_, Storage.change_of_error happend⟩
  | ok after =>
      have hrun : t.appendRecord n record files = .ok () after := Storage.change_of_ok happend
      rw [FileTree.append] at happend
      split at happend
      · cases happend
      · rename_i contents hread
        exact .inl ⟨contents, after, hrun, FileTree.get?_of_read hread,
          FileTree.get?_of_write happend⟩

/-- Wherever the record goes, only that sheet and its temporary sibling can change.  On a sheet that
is there the record comes after its text, and a new sheet holds nothing else. -/
theorem putRecord_cases (t : Table) (numbers : List SheetNumber) (record : Record)
    (found : Option SheetNumber) (files : FileTree) :
    (∃ after contents, t.putRecord numbers record found files = .ok () after ∧
      (∀ q, q ≠ Storage.temporary (t.sheetPath (targetNumber numbers found)) → after.get? q =
        if q = t.sheetPath (targetNumber numbers found) then some (.file contents)
        else files.get? q) ∧
      (∀ n text, found = some n → files.readText (t.sheetPath n) = .ok text →
        contents = (text ++ record.line).toUTF8) ∧
      (found = none → contents = (Sheet.encode t.columns [record]).toUTF8)) ∨
    ∃ failure after, t.putRecord numbers record found files = .error failure after ∧
      ∀ q, q ≠ Storage.temporary (t.sheetPath (targetNumber numbers found)) →
        after.get? q = files.get? q := by
  cases found with
  | some n =>
      rcases appendRecord_cases t n record files with
        ⟨contents, after, hrun, hcontents, hview⟩ | ⟨failure, hrun⟩
      · refine .inl ⟨after, _, hrun, fun q _ => hview q, fun m text hm htext => ?_, nofun⟩
        obtain rfl := Option.some.inj hm
        rw [FileTree.get?_of_readText htext] at hcontents
        cases hcontents
        simp
      · exact .inr ⟨failure, files, hrun, fun _ _ => rfl⟩
  | none =>
      rcases Storage.replaceText_cases files t.dir
        (SheetNumber.fileName (targetNumber numbers none)) (Sheet.encode t.columns [record]) with
        ⟨after, hrun, -, hview⟩ | ⟨failure, after, hrun, hsame⟩
      · refine .inl ⟨after, _, hrun, fun q hq => ?_, nofun, fun _ => rfl⟩
        have hne : q ≠ Storage.temporary (t.dir.entry
          (SheetNumber.fileName (targetNumber numbers none))) := hq
        rw [hview, if_neg hne]
        rfl
      · refine .inr ⟨failure, after, hrun, fun q hq => ?_⟩
        rcases hsame with rfl | ⟨-, hsame⟩
        · rfl
        · exact hsame q hq

/-! ## What a failure leaves -/

/-- Temporary siblings have no part in the rows and the next key. -/
theorem keeps_of_temporary {name : String} (hdir : files.get? t.dir = some .directory)
    (h : ∀ q, q ≠ Storage.temporary (t.dir.entry name) → after.get? q = files.get? q) :
    t.rows after = t.rows files ∧ t.nextKey after = t.nextKey files := by
  have hdir' : after.get? t.dir = some .directory := by
    rw [h _ (Path.entry_ne _ _).symm, hdir]
  constructor
  · refine rows_congr hdir hdir' fun other hother => h _ (entry_ne_of_getLast? ?_)
    rw [hother, getLast?_temporary]
    decide
  · exact nextKey_congr hdir hdir' (h _ (keyPath_ne_temporary t name))

/-- A change of a sheet leaves the directory, the key sequence and its temporary sibling alone. -/
theorem get?_of_sheet_changed {n : SheetNumber} {node : Option Node}
    (h : ∀ q, q ≠ Storage.temporary (t.sheetPath n) → after.get? q =
      if q = t.sheetPath n then node else files.get? q) :
    after.get? t.dir = files.get? t.dir ∧ after.get? t.keyPath = files.get? t.keyPath ∧
      after.get? (Storage.temporary t.keyPath) = files.get? (Storage.temporary t.keyPath) := by
  have hdir : t.dir ≠ t.sheetPath n := (Path.entry_ne _ _).symm
  have htemp : Storage.temporary t.keyPath ≠ t.sheetPath n := (sheetPath_ne_temporary t _ _).symm
  refine ⟨?_, ?_, ?_⟩
  · rw [h _ (Path.entry_ne _ _).symm, if_neg hdir]
  · rw [h _ (keyPath_ne_temporary t _), if_neg (keyPath_ne_sheetPath t _)]
  · rw [h _ (temporary_keyPath_ne t _), if_neg htemp]

/-- The next key can be set unless a directory stands in the way. -/
theorem exists_setNextKey {contents : ByteArray} (key : Nat)
    (hdir : files.get? t.dir = some .directory)
    (hkey : files.get? t.keyPath = some (.file contents))
    (hfree : files.get? (Storage.temporary t.keyPath) ≠ some .directory) :
    ∃ after, t.setNextKey key files = .ok () after := by
  have hkeyFree : files.get? t.keyPath ≠ some .directory := by
    rw [hkey]
    simp
  obtain ⟨after, hrun, -⟩ := Storage.exists_replaceText (toString key) hdir hkeyFree hfree
  exact ⟨after, hrun⟩

/-- An insertion that fails keeps the next key.  It keeps the rows too, unless a directory stands
where the key sequence has its temporary sibling, which is only seen when the record is stored. -/
theorem insert_error_keeps {failure : Failure}
    (h : t.insert limit values files = .error failure after) :
    t.nextKey after = t.nextKey files ∧ (t.rows after = t.rows files ∨
      files.get? (Storage.temporary t.keyPath) = some .directory ∧
        failure = .storage (Storage.temporary t.keyPath) .isADirectory) := by
  rcases insert_cases t limit values files with ⟨failure', hinsert⟩ | ⟨key, numbers, found, hreads⟩
  · rw [hinsert] at h
    cases h
    exact ⟨rfl, .inl rfl⟩
  rw [hreads.insert_eq] at h
  have hdir := hreads.directory
  obtain ⟨contents, hkeyFile⟩ := hreads.keyFile
  rcases putRecord_cases t numbers (keyedRecord key values) found files with
    ⟨stored, contents', hput, hview, -⟩ | ⟨failure', left, hput, hsame⟩
  · -- the record is stored, so it is the next key that fails
    rw [bind_of_ok hput] at h
    obtain ⟨hdir', hkey, htemp⟩ := get?_of_sheet_changed hview
    rw [hdir] at hdir'
    by_cases hfree : stored.get? (Storage.temporary t.keyPath) = some .directory
    · have hset : t.setNextKey (key + 1) stored
          = .error (.storage (Storage.temporary t.keyPath) .isADirectory) stored :=
        Storage.replaceText_of_directory hfree
      rw [bind_of_error hset] at h
      cases h
      exact ⟨nextKey_congr hdir hdir' hkey, .inr ⟨htemp.symm.trans hfree, rfl⟩⟩
    · obtain ⟨done, hset⟩ := exists_setNextKey (key + 1) hdir' (hkey.trans hkeyFile) hfree
      rw [bind_of_ok hset] at h
      cases h
  · rw [bind_of_error hput] at h
    cases h
    obtain ⟨hrows, hnext⟩ := keeps_of_temporary hdir hsame
    exact ⟨hnext, .inl hrows⟩

end Table

end SheetStore
