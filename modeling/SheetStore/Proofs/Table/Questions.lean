import SheetStore.Table
import SheetStore.Proofs.Results
import SheetStore.Proofs.Files.Writing
import SheetStore.Proofs.Sheet.Number

/-!
# What the answers of a table depend on

The directory of a table may hold anything: sheets, files with other names, directories with the
name of a sheet, and several names for one number.  What a table answers about such a directory
depends on a part of it alone.

* The numbers of the sheets depend on which files have names that end like a sheet
  (`mem_sheetNumbers`, `sheetNumbers_congr`).
* A sheet and the next key depend on one file each (`readSheet_congr`, `nextKey_congr`).

So a change of anything else, such as a temporary sibling, changes no row (`rows_congr`).
-/

namespace SheetStore

namespace Table

variable {t : Table} {files after : FileTree}

/-! ## Numbers of sheets -/

/-- The entry is a file. -/
def HasFile (t : Table) (files : FileTree) (name : String) : Prop :=
  ∃ contents, files.get? (t.dir.entry name) = some (.file contents)

/-- The numbers come from the names of files that end like a sheet, each of which counts once. -/
theorem exists_sheetNames (hdir : files.get? t.dir = some .directory) :
    ∃ names : List String, names.Nodup ∧
      (∀ name, name ∈ names ↔ (SheetNumber.ofFileName? name).isSome ∧ t.HasFile files name) ∧
      t.sheetNumbers files
        = .ok (SheetNumber.ascending (names.filterMap SheetNumber.ofFileName?)) := by
  obtain ⟨entries, hlist, hnodup, hmem⟩ := FileTree.exists_list hdir
  obtain ⟨number?, hfile?, hdirectory?, hnumbers⟩ : ∃ number? : String × Node → Option SheetNumber,
      (∀ name contents, number? (name, .file contents) = SheetNumber.ofFileName? name) ∧
        (∀ name, number? (name, .directory) = none) ∧
        t.sheetNumbers files = .ok (SheetNumber.ascending (entries.filterMap number?)) := by
    rw [sheetNumbers]
    split
    · rename_i cause hfails
      cases hlist.symm.trans hfails
    · rename_i listed hlisted
      cases hlist.symm.trans hlisted
      exact ⟨_, fun _ _ => rfl, fun _ => rfl, rfl⟩
  refine ⟨(entries.filter fun e => (number? e).isSome).map Prod.fst, ?_, ?_, ?_⟩
  · exact hnodup.sublist (List.filter_sublist.map _)
  · intro name
    rw [List.mem_map]
    constructor
    · rintro ⟨⟨n, node⟩, hentry, rfl⟩
      obtain ⟨hentry, hsome⟩ := List.mem_filter.1 hentry
      cases node with
      | directory =>
          rw [hdirectory?] at hsome
          cases hsome
      | file contents =>
          rw [hfile?] at hsome
          exact ⟨hsome, contents, (hmem _ _).1 hentry⟩
    · rintro ⟨hsome, contents, hfile⟩
      refine ⟨(name, .file contents), List.mem_filter.2 ⟨(hmem _ _).2 hfile, ?_⟩, rfl⟩
      rw [hfile?]
      exact hsome
  · rw [hnumbers, List.filterMap_map, List.filterMap_filter]
    refine congrArg (Except.ok ∘ SheetNumber.ascending) (List.filterMap_congr fun e _ => ?_)
    obtain ⟨name, node⟩ := e
    cases node with
    | directory => simp [hdirectory?]
    | file contents => cases hof : SheetNumber.ofFileName? name <;> simp [hfile?, hof]

/-- The numbers of the sheets are those that files are named after. -/
theorem mem_sheetNumbers (hdir : files.get? t.dir = some .directory) :
    ∃ numbers, t.sheetNumbers files = .ok numbers ∧ ∀ n, n ∈ numbers ↔
      ∃ name, SheetNumber.ofFileName? name = some n ∧ t.HasFile files name := by
  obtain ⟨names, -, hmem, hnumbers⟩ := exists_sheetNames hdir
  refine ⟨_, hnumbers, fun n => ?_⟩
  rw [SheetNumber.mem_ascending, List.mem_filterMap]
  constructor
  · rintro ⟨name, hname, hn⟩
    exact ⟨name, hn, ((hmem name).1 hname).2⟩
  · rintro ⟨name, hn, hfile⟩
    exact ⟨name, (hmem name).2 ⟨by rw [hn]; rfl, hfile⟩, hn⟩

/-- Only the files whose names end like a sheet count. -/
theorem sheetNumbers_congr (hdir : files.get? t.dir = some .directory)
    (hdir' : after.get? t.dir = some .directory)
    (h : ∀ name, (SheetNumber.ofFileName? name).isSome = true →
      (t.HasFile after name ↔ t.HasFile files name)) :
    t.sheetNumbers after = t.sheetNumbers files := by
  obtain ⟨names, hnodup, hmem, hnumbers⟩ := exists_sheetNames hdir
  obtain ⟨names', hnodup', hmem', hnumbers'⟩ := exists_sheetNames hdir'
  have hperm : names'.Perm names := by
    refine (List.perm_ext_iff_of_nodup hnodup' hnodup).2 fun name => ?_
    rw [hmem', hmem]
    exact and_congr_right (h name)
  rw [hnumbers, hnumbers', SheetNumber.ascending_congr (hperm.filterMap _)]

/-- Where the numbers can be listed, the table has a directory. -/
theorem directory_of_sheetNumbers {numbers : List SheetNumber}
    (h : t.sheetNumbers files = .ok numbers) : files.get? t.dir = some .directory := by
  rw [sheetNumbers, FileTree.list] at h
  cases hnode : files.get? t.dir with
  | none =>
      rw [hnode] at h
      cases h
  | some node =>
      cases node with
      | directory => rfl
      | file contents =>
          rw [hnode] at h
          cases h

/-- The numbers are listed in ascending order. -/
theorem pairwise_sheetNumbers {numbers : List SheetNumber}
    (h : t.sheetNumbers files = .ok numbers) : numbers.Pairwise (· ≤ ·) := by
  obtain ⟨names, -, -, hnumbers⟩ := exists_sheetNames (directory_of_sheetNumbers h)
  rw [Except.ok.inj (h.symm.trans hnumbers)]
  exact SheetNumber.pairwise_ascending _

/-! ## Records and the next key -/

theorem readSheets_congr {numbers : List SheetNumber}
    (h : ∀ n ∈ numbers, t.readSheet n after = t.readSheet n files) :
    t.readSheets after numbers = t.readSheets files numbers := by
  induction numbers with
  | nil => rfl
  | cons n rest ih =>
      rw [List.forall_mem_cons] at h
      rw [readSheets, readSheets, h.1, ih h.2]

section Congr

variable (hdir : files.get? t.dir = some .directory) (hdir' : after.get? t.dir = some .directory)

include hdir hdir'

theorem nextKey_congr (h : after.get? t.keyPath = files.get? t.keyPath) :
    t.nextKey after = t.nextKey files := by
  have htext : after.readText t.keyPath = files.readText t.keyPath :=
    FileTree.readText_congr hdir hdir' h
  rw [nextKey, nextKey, htext]

theorem readSheet_congr {n : SheetNumber}
    (h : after.get? (t.sheetPath n) = files.get? (t.sheetPath n)) :
    t.readSheet n after = t.readSheet n files := by
  have htext : after.readText (t.sheetPath n) = files.readText (t.sheetPath n) :=
    FileTree.readText_congr hdir hdir' h
  rw [readSheet, readSheet, htext]

/-- Entries whose names do not end like a sheet have no part in the rows. -/
theorem rows_congr (h : ∀ name : String, name.toList.getLast? = some 'v' →
    after.get? (t.dir.entry name) = files.get? (t.dir.entry name)) :
    t.rows after = t.rows files := by
  have hnumbers : t.sheetNumbers after = t.sheetNumbers files := by
    refine sheetNumbers_congr hdir hdir' fun name hname => ?_
    obtain ⟨n, hn⟩ := Option.isSome_iff_exists.1 hname
    rw [HasFile, HasFile, h name (SheetNumber.getLast?_of_ofFileName? hn)]
  have hsheets : ∀ numbers, t.readSheets after numbers = t.readSheets files numbers := fun _ =>
    readSheets_congr fun n _ => readSheet_congr hdir hdir' (h _ (SheetNumber.fileName_getLast? n))
  rw [rows, rows, sheets, sheets, hnumbers]
  simp only [hsheets]

end Congr

/-! ## Tables that can be read -/

theorem exists_text_of_readSheet {n : SheetNumber} {sheet : Sheet}
    (h : t.readSheet n files = .ok sheet) :
    ∃ text, files.readText (t.sheetPath n) = .ok text ∧
      Sheet.decode t.columns text = .ok sheet := by
  rw [readSheet] at h
  split at h
  · cases h
  · rename_i text htext
    split at h
    · cases h
    · rename_i decoded hdecode
      cases h
      exact ⟨text, htext, hdecode⟩

theorem of_readSheets {numbers : List SheetNumber} {sheets : List (SheetNumber × Sheet)}
    (h : t.readSheets files numbers = .ok sheets) :
    ∀ n ∈ numbers, ∃ sheet, t.readSheet n files = .ok sheet := by
  induction numbers generalizing sheets with
  | nil => exact List.forall_mem_nil _
  | cons n rest ih =>
      rw [readSheets] at h
      obtain ⟨sheet, hsheet, h⟩ := of_bind_ok h
      obtain ⟨later, hrest, -⟩ := of_bind_ok h
      rw [List.forall_mem_cons]
      exact ⟨⟨sheet, hsheet⟩, ih hrest⟩

/-- Reading stops at a sheet that cannot be read. -/
theorem exists_unread_of_readSheets {numbers : List SheetNumber} {failure : Failure}
    (h : t.readSheets files numbers = .error failure) :
    ∃ n ∈ numbers, t.readSheet n files = .error failure := by
  induction numbers with
  | nil => cases h
  | cons n rest ih =>
      rw [readSheets] at h
      rcases of_bind_error h with hsheet | ⟨sheet, -, h⟩
      · exact ⟨n, List.mem_cons_self, hsheet⟩
      · rcases of_bind_error h with hrest | ⟨sheets, -, h⟩
        · obtain ⟨m, hm, hunread⟩ := ih hrest
          exact ⟨m, List.mem_cons_of_mem _ hm, hunread⟩
        · cases h

theorem readSheet_of_mem {numbers : List SheetNumber} {sheets : List (SheetNumber × Sheet)}
    (h : t.readSheets files numbers = .ok sheets) :
    ∀ entry ∈ sheets, t.readSheet entry.1 files = .ok entry.2 := by
  induction numbers generalizing sheets with
  | nil =>
      cases h
      exact List.forall_mem_nil _
  | cons n rest ih =>
      rw [readSheets] at h
      obtain ⟨sheet, hsheet, h⟩ := of_bind_ok h
      obtain ⟨later, hrest, h⟩ := of_bind_ok h
      cases h
      rw [List.forall_mem_cons]
      exact ⟨hsheet, ih hrest⟩

theorem map_fst_of_readSheets {numbers : List SheetNumber}
    {sheets : List (SheetNumber × Sheet)} (h : t.readSheets files numbers = .ok sheets) :
    sheets.map Prod.fst = numbers := by
  induction numbers generalizing sheets with
  | nil =>
      cases h
      rfl
  | cons n rest ih =>
      rw [readSheets] at h
      obtain ⟨sheet, -, h⟩ := of_bind_ok h
      obtain ⟨later, hrest, h⟩ := of_bind_ok h
      cases h
      rw [List.map_cons, ih hrest]

/-- All sheets are read, in the order of their numbers. -/
theorem exists_numbers_of_sheets {sheets : List (SheetNumber × Sheet)}
    (h : t.sheets files = .ok sheets) :
    t.sheetNumbers files = .ok (sheets.map Prod.fst) ∧
      ∀ entry ∈ sheets, t.readSheet entry.1 files = .ok entry.2 := by
  rw [Table.sheets] at h
  obtain ⟨numbers, hnumbers, h⟩ := of_bind_ok h
  rw [map_fst_of_readSheets h]
  exact ⟨hnumbers, readSheet_of_mem h⟩

/-- A sheet that is read has a file. -/
theorem hasFile_of_readSheet {n : SheetNumber} {sheet : Sheet}
    (h : t.readSheet n files = .ok sheet) : t.HasFile files n.fileName := by
  obtain ⟨text, htext, -⟩ := exists_text_of_readSheet h
  exact ⟨_, FileTree.get?_of_readText htext⟩

/-- Every record of a table is read from the text of a sheet. -/
theorem exists_decode_of_sheets {sheets : List (SheetNumber × Sheet)}
    (h : t.sheets files = .ok sheets) :
    ∀ r ∈ sheets.flatMap Prod.snd,
      ∃ text sheet, Sheet.decode t.columns text = .ok sheet ∧ r ∈ sheet := by
  intro r hr
  obtain ⟨⟨n, sheet⟩, hentry, hr⟩ := List.mem_flatMap.1 hr
  obtain ⟨text, -, hdecode⟩ :=
    exists_text_of_readSheet ((exists_numbers_of_sheets h).2 _ hentry)
  exact ⟨text, sheet, hdecode, hr⟩

end Table

end SheetStore
