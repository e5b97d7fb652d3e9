import SheetStore.Proofs.Table.Insertion
import SheetStore.Proofs.Files.Failures

/-!
# Failures of tables

Whatever lies in the directory of a table, the table fails with its own files alone (`Table.Fault`),
and once it has begun to write, with file operations alone (`Table.WriteFault`).  All reading comes
before the first write, so every change of a table is whole (`Table.insert_whole`,
`Table.deleteWhere_whole`).

A sheet that cannot be read stops every question about all records (`Table.Unreadable.sheets`).
An insertion stops at what it looks at: the key sequence, and the sheets up to the first with room
(`Table.Obstructed.insert`).
-/

namespace SheetStore

namespace Table

open Storage

variable {t : Table} {files : FileTree}

/-! ## The failures of a table -/

/-- The paths that a table uses. -/
inductive Uses (t : Table) : Path → Prop where
  /-- Its directory. -/
  | dir : t.Uses t.dir
  /-- The file of a sheet. -/
  | sheet (n : SheetNumber) : t.Uses (t.sheetPath n)
  /-- The file of the key sequence. -/
  | key : t.Uses t.keyPath
  /-- The temporary sibling of a path that it uses. -/
  | temporary {p : Path} (hp : t.Uses p) : t.Uses (temporary p)

/-- A file operation of the table failed. -/
def WriteFault (t : Table) (failure : Failure) : Prop :=
  ∃ p cause, t.Uses p ∧ failure = .storage p cause

/-- A failure of the files of a table. -/
inductive Fault (t : Table) : Failure → Prop where
  /-- A file operation failed. -/
  | storage {p : Path} (hp : t.Uses p) (cause : FileError) : t.Fault (.storage p cause)
  /-- A sheet cannot be read. -/
  | sheetFile (n : SheetNumber) (fault : SheetFault) :
      t.Fault (.unreadable (.sheetFile (t.sheetPath n) fault))
  /-- The key sequence holds no number. -/
  | keySequence (text : String) : t.Fault (.unreadable (.keySequence t.keyPath text))

theorem WriteFault.isStorage {failure : Failure} (h : t.WriteFault failure) :
    failure.isStorage = true := by
  obtain ⟨p, cause, -, rfl⟩ := h
  rfl

theorem WriteFault.fault {failure : Failure} (h : t.WriteFault failure) : t.Fault failure := by
  obtain ⟨p, cause, hp, rfl⟩ := h
  exact .storage hp cause

/-! ## Reading -/

theorem fault_of_sheetNumbers {failure : Failure} (h : t.sheetNumbers files = .error failure) :
    t.Fault failure := by
  rw [sheetNumbers] at h
  split at h
  · cases h
    exact .storage .dir _
  · cases h

theorem fault_of_readSheet {n : SheetNumber} {failure : Failure}
    (h : t.readSheet n files = .error failure) : t.Fault failure := by
  rw [readSheet] at h
  split at h
  · cases h
    exact .storage (.sheet n) _
  · split at h
    · cases h
      exact .sheetFile n _
    · cases h

theorem fault_of_nextKey {failure : Failure} (h : t.nextKey files = .error failure) :
    t.Fault failure := by
  rw [nextKey] at h
  split at h
  · cases h
    exact .storage .key _
  · split at h
    · cases h
    · cases h
      exact .keySequence _

theorem fault_of_readSheets {numbers : List SheetNumber} {failure : Failure}
    (h : t.readSheets files numbers = .error failure) : t.Fault failure := by
  obtain ⟨n, -, hunread⟩ := exists_unread_of_readSheets h
  exact fault_of_readSheet hunread

theorem fault_of_sheets {failure : Failure} (h : t.sheets files = .error failure) :
    t.Fault failure := by
  rcases of_bind_error h with hnumbers | ⟨numbers, -, hsheets⟩
  · exact fault_of_sheetNumbers hnumbers
  · exact fault_of_readSheets hsheets

theorem fault_of_rows {failure : Failure} (h : t.rows files = .error failure) :
    t.Fault failure := by
  rcases of_bind_error h with hsheets | ⟨sheets, -, h⟩
  · exact fault_of_sheets hsheets
  · cases h

theorem fault_of_firstWithRoom? {limit : Nat} {numbers : List SheetNumber} {failure : Failure}
    (h : t.firstWithRoom? limit files numbers = .error failure) : t.Fault failure := by
  induction numbers with
  | nil => cases h
  | cons n rest ih =>
      rw [firstWithRoom?] at h
      rcases of_bind_error h with hsheet | ⟨sheet, -, h⟩
      · exact fault_of_readSheet hsheet
      · split at h
        · cases h
        · exact ih h

/-! ## Writing -/

section Write

variable (t)

theorem change_writeFault {p : Path} (hp : t.Uses p)
    (operation : FileTree → Except FileError FileTree) :
    FailsOnly t.WriteFault (change p operation) :=
  .change fun cause => ⟨p, cause, hp, rfl⟩

theorem replaceText_writeFault {p : Path} (hp : t.Uses p) (text : String) :
    FailsOnly t.WriteFault (replaceText p text) :=
  .replaceText (fun cause => ⟨p, cause, hp, rfl⟩) fun cause => ⟨_, cause, .temporary hp, rfl⟩

theorem ensureText_writeFault {p : Path} (hp : t.Uses p) (text : String) :
    FailsOnly t.WriteFault (ensureText p text) :=
  .ensureText (fun cause => ⟨p, cause, hp, rfl⟩) fun cause => ⟨_, cause, .temporary hp, rfl⟩

theorem ensure_writeFault : FailsOnly t.WriteFault t.ensure :=
  (t.change_writeFault .dir _).bind fun _ =>
    (t.ensureText_writeFault (.sheet _) _).bind fun _ => t.ensureText_writeFault .key _

theorem clear_writeFault : FailsOnly t.WriteFault t.clear :=
  (t.change_writeFault .dir _).bind fun _ => t.ensure_writeFault

theorem deleteFrom_writeFault (selects : Row → Bool) (sheets : List (SheetNumber × Sheet)) :
    FailsOnly t.WriteFault (t.deleteFrom selects sheets) := by
  induction sheets with
  | nil => exact .pure 0
  | cons entry rest ih =>
      obtain ⟨n, sheet⟩ := entry
      rw [deleteFrom]
      split
      · exact (t.replaceText_writeFault (.sheet n) _).bind fun _ => ih.bind fun _ => .pure _
      · exact ih.bind fun _ => .pure _

end Write

/-! ## Changes -/

theorem clear_fault (t : Table) : FailsOnly t.Fault t.clear :=
  t.clear_writeFault.mono fun _ h => h.fault

theorem deleteWhere_fault (t : Table) (selects : Row → Bool) :
    FailsOnly t.Fault (t.deleteWhere selects) :=
  (FailsOnly.reading fun _ _ h => fault_of_sheets h).bind fun sheets =>
    (t.deleteFrom_writeFault selects sheets).mono fun _ h => h.fault

theorem deleteWhere_whole (t : Table) (selects : Row → Bool) : Whole (t.deleteWhere selects) :=
  .reading_bind fun sheets =>
    .of_failsOnly ((t.deleteFrom_writeFault selects sheets).mono fun _ h => h.isStorage)

/-- The writes of an insertion fail with file operations. -/
theorem putRecord_setNextKey_writeFault (t : Table) (numbers : List SheetNumber) (record : Record)
    (found : Option SheetNumber) (key : Nat) : FailsOnly t.WriteFault (do
      t.putRecord numbers record found
      t.setNextKey (key + 1)
      return key) := by
  have hput : FailsOnly t.WriteFault (t.putRecord numbers record found) := by
    cases found with
    | some n => exact t.change_writeFault (.sheet n) _
    | none => exact t.replaceText_writeFault (.sheet _) _
  exact hput.bind fun _ => (t.replaceText_writeFault .key _).bind fun _ => .pure key

theorem insert_fault (t : Table) (limit : Nat) (values : List String) :
    FailsOnly t.Fault (t.insert limit values) := by
  rw [insert_eq]
  exact (FailsOnly.reading fun _ _ h => fault_of_nextKey h).bind fun key =>
    (FailsOnly.reading fun _ _ h => fault_of_sheetNumbers h).bind fun numbers =>
    (FailsOnly.reading fun _ _ h => fault_of_firstWithRoom? h).bind fun found =>
    (t.putRecord_setNextKey_writeFault numbers _ found key).mono fun _ h => h.fault

theorem insert_whole (t : Table) (limit : Nat) (values : List String) :
    Whole (t.insert limit values) := by
  rw [insert_eq]
  exact .reading_bind fun key => .reading_bind fun numbers => .reading_bind fun found =>
    .of_failsOnly ((t.putRecord_setNextKey_writeFault numbers _ found key).mono
      fun _ h => h.isStorage)

/-- Removing records changes nothing outside the directory of the table. -/
theorem deleteWhere_keeps_outside (t : Table) (files : FileTree) (selects : Row → Bool) :
    Keeps (FileTree.SameOutside t.dir files) (t.deleteWhere selects) := by
  have hdelete : ∀ sheets, Keeps (FileTree.SameOutside t.dir files)
      (t.deleteFrom selects sheets) := by
    intro sheets
    induction sheets with
    | nil => exact .pure 0
    | cons entry rest ih =>
        obtain ⟨n, sheet⟩ := entry
        rw [deleteFrom]
        split
        · exact (replaceText_keeps_outside files t.dir _ _).bind fun _ => ih.bind fun _ => .pure _
        · exact ih.bind fun _ => .pure _
  exact (reading_keeps _).bind hdelete

/-! ## Sheets that cannot be read -/

variable {numbers : List SheetNumber} {n : SheetNumber} {failure : Failure}

/-- The sheet is listed and cannot be read. -/
structure Unreadable (t : Table) (n : SheetNumber) (files : FileTree) : Prop where
  /-- There is a file of the number. -/
  listed : ∃ numbers, t.sheetNumbers files = .ok numbers ∧ n ∈ numbers
  /-- It is no sheet of the table. -/
  fails : ∃ failure, t.readSheet n files = .error failure

/-- All records are asked for sheet by sheet, so a sheet that cannot be read stops the question. -/
theorem Unreadable.sheets (h : t.Unreadable n files) :
    ∃ failure, t.sheets files = .error failure := by
  obtain ⟨numbers, hnumbers, hmem⟩ := h.listed
  obtain ⟨failure, hfails⟩ := h.fails
  cases hsheets : t.sheets files with
  | error failure => exact ⟨failure, rfl⟩
  | ok sheets =>
      rw [Table.sheets, hnumbers] at hsheets
      obtain ⟨sheet, hsheet⟩ := of_readSheets hsheets n hmem
      cases hfails.symm.trans hsheet

/-- Whether a sheet can be read depends on the directory of the table alone. -/
theorem Unreadable.congr {after : FileTree} (h : t.Unreadable n files)
    (hsame : ∀ p, t.dir.holds p = true → after.get? p = files.get? p) :
    t.Unreadable n after := by
  obtain ⟨numbers, hnumbers, hmem⟩ := h.listed
  obtain ⟨failure, hfails⟩ := h.fails
  have hdir := directory_of_sheetNumbers hnumbers
  have hdir' : after.get? t.dir = some .directory := by
    rw [hsame _ (Path.holds_self _), hdir]
  constructor
  · refine ⟨numbers, ?_, hmem⟩
    rw [sheetNumbers_congr hdir hdir' fun name _ => ?_, hnumbers]
    rw [HasFile, HasFile, hsame _ (Path.holds_entry _ _)]
  · exact ⟨failure, by rw [readSheet_congr hdir hdir' (hsame _ (Path.holds_entry _ _)), hfails]⟩

/-- An insertion looks at something that cannot be read. -/
inductive Obstructed (t : Table) (limit : Nat) (files : FileTree) : Prop where
  /-- The key sequence. -/
  | key {failure : Failure} (hfails : t.nextKey files = .error failure)
  /-- A sheet, without room on the sheets before it. -/
  | sheet {front back : List SheetNumber} {n : SheetNumber} {failure : Failure}
      (hnumbers : t.sheetNumbers files = .ok (front ++ n :: back))
      (hfull : ∀ m ∈ front, ∃ sheet, t.readSheet m files = .ok sheet ∧ limit ≤ sheet.length)
      (hfails : t.readSheet n files = .error failure)

/-- Room is looked for up to a sheet that cannot be read. -/
theorem firstWithRoom?_of_unreadable {limit : Nat} {front back : List SheetNumber}
    (hfull : ∀ m ∈ front, ∃ sheet, t.readSheet m files = .ok sheet ∧ limit ≤ sheet.length)
    (hfails : t.readSheet n files = .error failure) :
    t.firstWithRoom? limit files (front ++ n :: back) = .error failure := by
  induction front with
  | nil =>
      rw [List.nil_append, firstWithRoom?, hfails]
      rfl
  | cons m front ih =>
      rw [List.forall_mem_cons] at hfull
      obtain ⟨⟨sheet, hsheet, hlen⟩, hrest⟩ := hfull
      rw [List.cons_append, firstWithRoom?, hsheet]
      exact Eq.trans (if_neg (Nat.not_lt.2 hlen)) (ih hrest)

/-- What an insertion cannot read stops it before it writes. -/
theorem Obstructed.insert {limit : Nat} (h : t.Obstructed limit files) (values : List String) :
    ∃ failure, t.insert limit values files = .error failure files := by
  rcases insert_cases t limit values files with hfails | ⟨key, numbers, found, hreads⟩
  · exact hfails
  · cases h with
    | key hfails => cases hfails.symm.trans hreads.nextKey
    | sheet hnumbers hfull hfails =>
        obtain rfl := Except.ok.inj (hnumbers.symm.trans hreads.sheetNumbers)
        cases (firstWithRoom?_of_unreadable hfull hfails).symm.trans hreads.firstWithRoom

end Table

end SheetStore
