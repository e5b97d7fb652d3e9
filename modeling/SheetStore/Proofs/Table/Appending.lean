import SheetStore.Proofs.Table.Insertion

/-!
# What an insertion adds

An insertion into a sheet that is there writes a line at the end of its file, without reading the
sheet anew.  It should have the same effect as `addRecord`, which takes the sheets as they are read,
and adds the record to one of them or puts a new one after them.

What an insertion that succeeds has read and written is said once (`Inserted`), and the rest follows
from that.  No other file of a sheet changes (`Inserted.sheet`).  The record is added if it starts a
new sheet (`Inserted.sheets_of_fresh`), or if the text of the sheet ends with a line feed
(`Inserted.sheets_of_ended`).  Otherwise the file is no sheet any more
(`Inserted.sheets_of_unended`).
-/

namespace SheetStore

/-- Adds a record to a sheet if it has the number. -/
def Sheet.addTo (n : SheetNumber) (record : Record) : SheetNumber × Sheet → SheetNumber × Sheet
  | (m, sheet) => (m, if m = n then sheet ++ [record] else sheet)

/-- Adds a record to the sheet of a number, or as a new sheet after all others. -/
def Sheet.addRecord (n : SheetNumber) (record : Record) (sheets : List (SheetNumber × Sheet)) :
    List (SheetNumber × Sheet) :=
  if n ∈ sheets.map Prod.fst then sheets.map (addTo n record) else sheets ++ [(n, [record])]

namespace SheetNumber

/-- The number of a new sheet is above all others. -/
theorem lt_newNumber {numbers : List SheetNumber} (hsorted : numbers.Pairwise (· ≤ ·)) :
    ∀ m ∈ numbers, m < (numbers.getLast?.map next).getD first := by
  intro m hm
  obtain ⟨front, last, rfl⟩ := List.eq_nil_or_concat numbers |>.resolve_left (List.ne_nil_of_mem hm)
  rw [List.concat_eq_append] at hsorted hm ⊢
  rw [List.getLast?_append, List.getLast?_singleton, Option.some_or, Option.map_some,
    Option.getD_some, next]
  rcases List.mem_append.1 hm with hfront | hlast
  · exact Nat.lt_succ_of_le
      ((List.pairwise_append.1 hsorted).2.2 m hfront last (List.mem_singleton_self last))
  · rw [List.mem_singleton.1 hlast]
    exact Nat.lt_succ_self last

theorem newNumber_pos (numbers : List SheetNumber) :
    0 < (numbers.getLast?.map next).getD first := by
  cases numbers.getLast? <;> exact Nat.succ_pos _

end SheetNumber

namespace Table

variable {t : Table} {files after : FileTree} {limit key : Nat} {n : SheetNumber}
  {numbers : List SheetNumber} {found : Option SheetNumber} {record : Record} {values : List String}
  {sheets : List (SheetNumber × Sheet)} {contents : ByteArray}

/-! ## Reading after a change -/

theorem readSheet_of_text {text : String} {sheet : Sheet}
    (htext : files.readText (t.sheetPath n) = .ok text)
    (hdecode : Sheet.decode t.columns text = .ok sheet) : t.readSheet n files = .ok sheet := by
  simp only [readSheet, htext, hdecode]

theorem readSheets_append (t : Table) (files : FileTree) (front rest : List SheetNumber) :
    t.readSheets files (front ++ rest) = (do
      let sheets ← t.readSheets files front
      let later ← t.readSheets files rest
      return sheets ++ later) := by
  induction front with
  | nil =>
      rw [List.nil_append]
      cases t.readSheets files rest <;> rfl
  | cons m front ih => simp only [List.cons_append, readSheets, ih, bind_assoc, pure_bind]

/-- If one sheet gets a record and the others are read as before, all are. -/
theorem readSheets_of_added {old : Sheet}
    (hsame : ∀ m, m ≠ n → t.readSheet m after = t.readSheet m files)
    (hold : t.readSheet n files = .ok old)
    (hnew : t.readSheet n after = .ok (old ++ [record]))
    (h : t.readSheets files numbers = .ok sheets) :
    t.readSheets after numbers = .ok (sheets.map (Sheet.addTo n record)) := by
  induction numbers generalizing sheets with
  | nil =>
      cases h
      rfl
  | cons m rest ih =>
      rw [readSheets] at h
      obtain ⟨sheet, hsheet, h⟩ := of_bind_ok h
      obtain ⟨later, hrest, h⟩ := of_bind_ok h
      cases h
      rw [readSheets, ih hrest, List.map_cons, Sheet.addTo]
      by_cases heq : m = n
      · subst heq
        cases hold.symm.trans hsheet
        rw [hnew, if_pos rfl]
        rfl
      · rw [hsame m heq, hsheet, if_neg heq]
        rfl

/-- A new file of a sheet after all others puts its number at the end. -/
theorem sheetNumbers_of_new (hdir : files.get? t.dir = some .directory)
    (hdir' : after.get? t.dir = some .directory)
    (hnumbers : t.sheetNumbers files = .ok numbers) (habove : ∀ m ∈ numbers, m < n)
    (hnumber : SheetNumber.ofFileName? n.fileName = some n) (hfile : t.HasFile after n.fileName)
    (hsame : ∀ name, (SheetNumber.ofFileName? name).isSome = true → name ≠ n.fileName →
      (t.HasFile after name ↔ t.HasFile files name)) :
    t.sheetNumbers after = .ok (numbers ++ [n]) := by
  obtain ⟨names, hnodup, hmem, hnumbers'⟩ := exists_sheetNames hdir
  obtain ⟨names', hnodup', hmem', hafter⟩ := exists_sheetNames hdir'
  obtain rfl := Except.ok.inj (hnumbers'.symm.trans hnumbers)
  have hsorted := SheetNumber.pairwise_ascending (names.filterMap SheetNumber.ofFileName?)
  have hfresh : n.fileName ∉ names := by
    intro hname
    have hin := SheetNumber.mem_ascending.2 (List.mem_filterMap.2 ⟨_, hname, hnumber⟩)
    exact Nat.lt_irrefl n (habove n hin)
  have hperm : names'.Perm (n.fileName :: names) := by
    refine (List.perm_ext_iff_of_nodup hnodup' (List.nodup_cons.2 ⟨hfresh, hnodup⟩)).2 fun name => ?_
    rw [hmem', List.mem_cons, hmem]
    by_cases heq : name = n.fileName
    · simp only [heq, hnumber, Option.isSome_some, hfile, true_or, and_self]
    · simp only [heq, false_or]
      exact and_congr_right fun hsome => hsame name hsome heq
  rw [hafter]
  refine congrArg Except.ok (SheetNumber.ascending_eq_of_perm ?_ ?_)
  · have hfilter : (n.fileName :: names).filterMap SheetNumber.ofFileName?
        = n :: names.filterMap SheetNumber.ofFileName? := by
      rw [List.filterMap_cons, hnumber]
    refine (hperm.filterMap _).trans ?_
    rw [hfilter]
    exact ((SheetNumber.ascending_perm _).symm.cons n).trans
      (List.perm_append_singleton n _).symm
  · rw [List.pairwise_append]
    refine ⟨hsorted, List.pairwise_singleton _ _, fun m hm k hk => ?_⟩
    rw [List.mem_singleton.1 hk]
    exact Nat.le_of_lt (habove m hm)

/-- If one sheet cannot be read and the others are read as before, the table cannot be read. -/
theorem readSheets_of_unreadable {failure : Failure}
    (hsame : ∀ m, m ≠ n → t.readSheet m after = t.readSheet m files)
    (hfails : t.readSheet n after = .error failure) (hmem : n ∈ numbers)
    (h : t.readSheets files numbers = .ok sheets) :
    t.readSheets after numbers = .error failure := by
  induction numbers generalizing sheets with
  | nil => cases hmem
  | cons m rest ih =>
      rw [readSheets] at h
      obtain ⟨sheet, hsheet, h⟩ := of_bind_ok h
      obtain ⟨later, hrest, -⟩ := of_bind_ok h
      rw [readSheets]
      by_cases heq : m = n
      · rw [heq, hfails]
        rfl
      · have hmem' : n ∈ rest := (List.mem_cons.1 hmem).resolve_left (Ne.symm heq)
        rw [hsame m heq, hsheet, ih hmem' hrest]
        rfl

/-! ## Insertions that succeed -/

/-- Setting the next key changes nothing but its file and the temporary sibling. -/
theorem get?_of_setNextKey (h : t.setNextKey key files = .ok () after) :
    after.get? t.dir = some .directory ∧ ∀ name : String, name.toList.getLast? = some 'v' →
      after.get? (t.dir.entry name) = files.get? (t.dir.entry name) := by
  rcases Storage.replaceText_cases files t.dir (t.name ++ "_pk_sequence") (toString key) with
    ⟨done, hrun, -, hview⟩ | ⟨failure, done, hrun, -⟩
  · cases hrun.symm.trans h
    refine ⟨FileTree.get?_parent ((hview _).trans (if_pos rfl)), fun name hlast => ?_⟩
    have hkey : t.dir.entry name ≠ t.dir.entry (t.name ++ "_pk_sequence") :=
      entry_ne_of_getLast? (by rw [hlast]; simp)
    have htemp : t.dir.entry name ≠ Storage.temporary (t.dir.entry (t.name ++ "_pk_sequence")) :=
      entry_ne_of_getLast? (by rw [hlast, getLast?_temporary]; decide)
    rw [hview, if_neg hkey, if_neg htemp]
  · cases hrun.symm.trans h

/-- What an insertion that succeeds has read, and which file it has written. -/
structure Inserted (t : Table) (limit : Nat) (record : Record) (files after : FileTree)
    (key : Nat) (numbers : List SheetNumber) (found : Option SheetNumber)
    (contents : ByteArray) : Prop where
  /-- It has read what it needs. -/
  reads : t.Reads limit files key numbers found
  /-- The table still has its directory. -/
  directory : after.get? t.dir = some .directory
  /-- Of the files whose names end like a sheet, one has changed. -/
  entry : ∀ name : String, name.toList.getLast? = some 'v' → after.get? (t.dir.entry name) =
    if name = SheetNumber.fileName (targetNumber numbers found) then some (.file contents)
    else files.get? (t.dir.entry name)
  /-- On a sheet that was found, the record comes after the text. -/
  continued : ∀ n text, found = some n → files.readText (t.sheetPath n) = .ok text →
    contents = (text ++ record.line).toUTF8
  /-- A new sheet holds the record. -/
  fresh : found = none → contents = (Sheet.encode t.columns [record]).toUTF8

theorem exists_inserted (h : t.insert limit values files = .ok key after) :
    ∃ numbers found contents,
      t.Inserted limit (keyedRecord key values) files after key numbers found contents := by
  rcases insert_cases t limit values files with ⟨failure, hinsert⟩ | ⟨key', numbers, found, hreads⟩
  · cases hinsert.symm.trans h
  rw [hreads.insert_eq] at h
  obtain ⟨_, stored, hput, h⟩ := of_bind_eq_ok h
  obtain ⟨_, done, hset, h⟩ := of_bind_eq_ok h
  cases h
  obtain ⟨hdir, hkept⟩ := get?_of_setNextKey hset
  rcases putRecord_cases t numbers (keyedRecord key values) found files with
    ⟨stored', contents, hput', hview, hcontinued, hfresh⟩ | ⟨failure, left, hput', -⟩
  · cases hput'.symm.trans hput
    refine ⟨numbers, found, contents, hreads, hdir, fun name hlast => ?_, hcontinued, hfresh⟩
    have htemp : t.dir.entry name ≠ Storage.temporary (t.dir.entry
        (SheetNumber.fileName (targetNumber numbers found))) :=
      entry_ne_of_getLast? (by rw [hlast, getLast?_temporary]; decide)
    rw [hkept name hlast, hview _ htemp, sheetPath]
    simp only [Path.entry_inj]
  · cases hput'.symm.trans hput

namespace Inserted

/-- No other sheet has changed. -/
theorem sheet (h : t.Inserted limit record files after key numbers found contents)
    {m : SheetNumber} (hm : m ≠ targetNumber numbers found) :
    after.get? (t.sheetPath m) = files.get? (t.sheetPath m) := by
  have hne : m.fileName ≠ SheetNumber.fileName (targetNumber numbers found) :=
    mt SheetNumber.fileName_inj.1 hm
  rw [sheetPath, h.entry _ (SheetNumber.fileName_getLast? m), if_neg hne]

theorem readSheet_eq (h : t.Inserted limit record files after key numbers found contents)
    {m : SheetNumber} (hm : m ≠ targetNumber numbers found) :
    t.readSheet m after = t.readSheet m files :=
  readSheet_congr h.reads.directory h.directory (h.sheet hm)

theorem target (h : t.Inserted limit record files after key numbers found contents) :
    after.get? (t.sheetPath (targetNumber numbers found)) = some (.file contents) := by
  rw [sheetPath, h.entry _ (SheetNumber.fileName_getLast? _), if_pos rfl]

/-- An addition to a sheet that is there makes no new number. -/
theorem sheetNumbers_of_found (h : t.Inserted limit record files after key numbers (some n) contents)
    (hfile : t.HasFile files n.fileName) : t.sheetNumbers after = .ok numbers := by
  rw [← h.reads.sheetNumbers]
  refine sheetNumbers_congr h.reads.directory h.directory fun name hname => ?_
  obtain ⟨m, hm⟩ := Option.isSome_iff_exists.1 hname
  by_cases heq : name = n.fileName
  · rw [heq]
    exact iff_of_true ⟨contents, h.target⟩ hfile
  · have hne : name ≠ SheetNumber.fileName (targetNumber numbers (some n)) := heq
    rw [HasFile, HasFile, h.entry name (SheetNumber.getLast?_of_ofFileName? hm), if_neg hne]

theorem sorted (h : t.Inserted limit record files after key numbers found contents) :
    numbers.Pairwise (· ≤ ·) := pairwise_sheetNumbers h.reads.sheetNumbers

/-- A new sheet has no file before. -/
theorem not_hasFile (h : t.Inserted limit record files after key numbers none contents)
    (hword : targetNumber numbers none < Text.wordBound) :
    ¬ t.HasFile files (SheetNumber.fileName (targetNumber numbers none)) := by
  intro hfile
  obtain ⟨numbers', hnumbers, hmem⟩ := mem_sheetNumbers h.reads.directory
  obtain rfl := Except.ok.inj (hnumbers.symm.trans h.reads.sheetNumbers)
  have hnumber := SheetNumber.ofFileName?_fileName (SheetNumber.newNumber_pos numbers') hword
  exact Nat.lt_irrefl _ (SheetNumber.lt_newNumber h.sorted _ ((hmem _).2 ⟨_, hnumber, hfile⟩))

/-- A new sheet comes after all others. -/
theorem sheetNumbers_of_fresh (h : t.Inserted limit record files after key numbers none contents)
    (hword : targetNumber numbers none < Text.wordBound) :
    t.sheetNumbers after = .ok (numbers ++ [targetNumber numbers none]) := by
  have hnumber : SheetNumber.ofFileName? (SheetNumber.fileName (targetNumber numbers none))
      = some (targetNumber numbers none) :=
    SheetNumber.ofFileName?_fileName (SheetNumber.newNumber_pos numbers) hword
  refine sheetNumbers_of_new h.reads.directory h.directory h.reads.sheetNumbers
    (SheetNumber.lt_newNumber h.sorted) hnumber ⟨contents, h.target⟩ fun name hname hne => ?_
  obtain ⟨m, hm⟩ := Option.isSome_iff_exists.1 hname
  rw [HasFile, HasFile, h.entry name (SheetNumber.getLast?_of_ofFileName? hm), if_neg hne]

end Inserted

/-! ## The sheets after an insertion -/

/-- The text of a sheet that was found is followed by the record. -/
theorem Inserted.of_found {text : String}
    (h : t.Inserted limit record files after key numbers (some n) contents)
    (hsheets : t.readSheets files numbers = .ok sheets) (hmem : n ∈ numbers)
    (htext : files.readText (t.sheetPath n) = .ok text) :
    ∃ old, t.readSheet n files = .ok old ∧ Sheet.decode t.columns text = .ok old ∧
      after.readText (t.sheetPath n) = .ok (text ++ record.line) ∧
      t.sheetNumbers after = .ok numbers := by
  obtain ⟨old, hold⟩ := of_readSheets hsheets n hmem
  obtain ⟨text', htext', hdecode⟩ := exists_text_of_readSheet hold
  cases htext.symm.trans htext'
  refine ⟨old, hold, hdecode, FileTree.readText_of_get? ?_, ?_⟩
  · rw [← h.continued n text rfl htext]
    exact h.target
  · exact h.sheetNumbers_of_found ⟨_, FileTree.get?_of_readText htext⟩

/-- A record that is added to a text with a line feed at its end is added to the sheet. -/
theorem Inserted.sheets_of_ended {text : String}
    (h : t.Inserted limit record files after key numbers (some n) contents)
    (hsheets : t.readSheets files numbers = .ok sheets) (hmem : n ∈ numbers)
    (htext : files.readText (t.sheetPath n) = .ok text)
    (hended : text.toList.getLast? = some '\n') (hfits : Sheet.Fits t.columns.length [record]) :
    t.sheets after = .ok (Sheet.addRecord n record sheets) := by
  obtain ⟨old, hold, hdecode, hafter, hnumbers⟩ := h.of_found hsheets hmem htext
  have hnew := readSheet_of_text hafter (Sheet.decode_append_line hdecode hended hfits)
  rw [Table.sheets, hnumbers, Sheet.addRecord, map_fst_of_readSheets hsheets, if_pos hmem]
  exact readSheets_of_added (fun m hm => h.readSheet_eq hm) hold hnew hsheets

/-- A record that is added to a text with no line feed at its end makes the table unreadable. -/
theorem Inserted.sheets_of_unended {text : String}
    (h : t.Inserted limit record files after key numbers (some n) contents)
    (hsheets : t.readSheets files numbers = .ok sheets) (hmem : n ∈ numbers)
    (htext : files.readText (t.sheetPath n) = .ok text)
    (hunended : text.toList.getLast? ≠ some '\n') (hwide : 2 ≤ t.columns.length)
    (hfits : Sheet.Fits t.columns.length [record]) :
    ∃ fault, t.sheets after = .error (.unreadable (.sheetFile (t.sheetPath n) fault)) := by
  obtain ⟨old, hold, hdecode, hafter, hnumbers⟩ := h.of_found hsheets hmem htext
  obtain ⟨fault, hfault⟩ := Sheet.exists_fault_of_unended hwide hdecode hunended hfits
  have hfails : t.readSheet n after = .error (.unreadable (.sheetFile (t.sheetPath n) fault)) := by
    simp only [readSheet, hafter, hfault]
  refine ⟨fault, ?_⟩
  rw [Table.sheets, hnumbers]
  exact readSheets_of_unreadable (fun m hm => h.readSheet_eq hm) hfails hmem hsheets

/-- A new sheet holds the record alone. -/
theorem Inserted.sheets_of_fresh (h : t.Inserted limit record files after key numbers none contents)
    (hsheets : t.readSheets files numbers = .ok sheets)
    (hword : targetNumber numbers none < Text.wordBound) (hheader : Record.FitsLine t.columns)
    (hfits : Sheet.Fits t.columns.length [record]) :
    t.sheets after = .ok (Sheet.addRecord (targetNumber numbers none) record sheets) := by
  have hfree : targetNumber numbers none ∉ numbers := fun hmem =>
    Nat.lt_irrefl _ (SheetNumber.lt_newNumber h.sorted _ hmem)
  have hafter : after.readText (t.sheetPath (targetNumber numbers none))
      = .ok (Sheet.encode t.columns [record]) :=
    FileTree.readText_of_get? (by rw [← h.fresh rfl]; exact h.target)
  have hnew := readSheet_of_text hafter (Sheet.decode_encode hheader hfits)
  have hothers : t.readSheets after numbers = t.readSheets files numbers :=
    readSheets_congr fun m hm => h.readSheet_eq (ne_of_mem_of_not_mem hm hfree)
  rw [Table.sheets, h.sheetNumbers_of_fresh hword, Sheet.addRecord,
    map_fst_of_readSheets hsheets, if_neg hfree]
  show t.readSheets after (numbers ++ [targetNumber numbers none]) = _
  rw [readSheets_append, hothers, hsheets, readSheets, hnew]
  rfl

end Table

end SheetStore
