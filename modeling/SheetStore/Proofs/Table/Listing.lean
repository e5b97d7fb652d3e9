import Mathlib.Data.Set.Card
import SheetStore.Proofs.Files.Failures
import SheetStore.Proofs.Row
import SheetStore.Proofs.Steps
import SheetStore.Proofs.Table.Rewriting

/-!
# Which sheets a directory lists

The directory of a table may hold files and directories of any names.  A file is taken for a sheet
if its name gives a number, and the name may have zeros in front of the number.  So there can be
several files for one number, and each of them lists it once (`count_of_sheetNumbers`).  Whichever
lists it, what is read is the file without zeros.

A listing is *exact* if it has the number of each sheet that has a file, once and in order
(`Table.ListsExactly`).  Then every sheet is read once, and a deletion counts every row once.
`listsExactly_iff_unpadded` says that the listing is exact if no file name has zeros in front of the
number, and only then.
-/

namespace SheetStore

namespace Table

open Database

variable {t : Table} {files after : FileTree} {numbers : List SheetNumber} {n : SheetNumber}

/-! ## How often a number is listed -/

/-- The numbers of zeros with which a file has the name of the sheet. -/
def paddings (t : Table) (files : FileTree) (n : SheetNumber) : Set Nat :=
  {zeros | t.HasFile files (SheetNumber.paddedName zeros n)}

/-- No file has zeros in front of the number of a sheet. -/
def Unpadded (t : Table) (files : FileTree) : Prop :=
  ∀ n, 0 < n → n < Text.wordBound → t.paddings files n ⊆ {0}

theorem mem_paddings {zeros : Nat} : zeros ∈ t.paddings files n ↔
    t.HasFile files (SheetNumber.paddedName zeros n) := Iff.rfl

theorem zero_mem_paddings : 0 ∈ t.paddings files n ↔ t.HasFile files n.fileName := by
  rw [mem_paddings, SheetNumber.paddedName_zero]

/-- Where no name begins with a zero, no number has zeros in front. -/
theorem unpadded_of_list {entries : List (String × Node)} (h : files.list t.dir = .ok entries)
    (hzero : ∀ entry ∈ entries, entry.1.toList.head? ≠ some '0') : t.Unpadded files := by
  intro n _ _ zeros hfile
  obtain ⟨contents, hnode⟩ := hfile
  obtain ⟨listed, hlisted, -, hmem⟩ := FileTree.exists_list (FileTree.get?_parent hnode)
  obtain rfl := Except.ok.inj (h.symm.trans hlisted)
  have hhead := hzero _ ((hmem _ _).2 hnode)
  rw [SheetNumber.toList_paddedName] at hhead
  cases zeros with
  | zero => rfl
  | succ zeros => exact absurd rfl hhead

/-- A number is listed once for each file that has the name of its sheet, with zeros or without. -/
theorem count_of_sheetNumbers (h : t.sheetNumbers files = .ok numbers) (n : SheetNumber) :
    numbers.count n
      = if 0 < n ∧ n < Text.wordBound then (t.paddings files n).ncard else 0 := by
  obtain ⟨names, hnodup, hmem, hnumbers⟩ := exists_sheetNames (directory_of_sheetNumbers h)
  rw [Except.ok.inj (h.symm.trans hnumbers), (SheetNumber.ascending_perm _).count_eq,
    List.count_filterMap, List.countP_eq_length_filter]
  by_cases hword : 0 < n ∧ n < Text.wordBound
  · -- the listed names of the number have no repetition, and there is one for each padding
    rw [if_pos hword, ← Set.ncard_image_of_injective _ (SheetNumber.paddedName_injective n),
      ← List.toFinset_card_of_nodup (hnodup.filter _), ← Set.ncard_coe_finset]
    congr 1
    ext name
    rw [List.coe_toFinset, Set.mem_ofPred_eq, List.mem_filter, hmem, beq_iff_eq, Set.mem_image]
    simp only [mem_paddings]
    constructor
    · rintro ⟨⟨-, hfile⟩, hn⟩
      obtain ⟨-, -, zeros, rfl⟩ := SheetNumber.ofFileName?_eq_some_iff.1 hn
      exact ⟨zeros, hfile, rfl⟩
    · rintro ⟨zeros, hfile, rfl⟩
      have hn := SheetNumber.ofFileName?_eq_some_iff.2 ⟨hword.1, hword.2, zeros, rfl⟩
      exact ⟨⟨by rw [hn]; rfl, hfile⟩, hn⟩
  · rw [if_neg hword, List.length_eq_zero_iff, List.filter_eq_nil_iff]
    intro name _ hn
    obtain ⟨hpos, hlt, -⟩ := SheetNumber.ofFileName?_eq_some_iff.1 (beq_iff_eq.1 hn)
    exact hword ⟨hpos, hlt⟩

/-- A number is listed if there is a file with the name of its sheet, with zeros or without. -/
theorem mem_iff_of_sheetNumbers (h : t.sheetNumbers files = .ok numbers) (n : SheetNumber) :
    n ∈ numbers ↔ 0 < n ∧ n < Text.wordBound ∧ (t.paddings files n).Nonempty := by
  obtain ⟨listed, hlisted, hmem⟩ := mem_sheetNumbers (directory_of_sheetNumbers h)
  rw [Except.ok.inj (h.symm.trans hlisted), hmem]
  constructor
  · rintro ⟨name, hn, hfile⟩
    obtain ⟨hpos, hlt, zeros, rfl⟩ := SheetNumber.ofFileName?_eq_some_iff.1 hn
    exact ⟨hpos, hlt, zeros, hfile⟩
  · rintro ⟨hpos, hlt, zeros, hfile⟩
    exact ⟨_, SheetNumber.ofFileName?_eq_some_iff.2 ⟨hpos, hlt, zeros, rfl⟩, hfile⟩

/-! ## What is read and what is counted -/

/-- A sheet that has a file is never missing. -/
theorem readSheet_ne_notFound (h : t.HasFile files n.fileName) (path : Path) :
    t.readSheet n files ≠ .error (.storage path .notFound) := by
  intro hmissing
  obtain ⟨contents, hcontents⟩ := h
  have hread : files.read (t.sheetPath n) = .ok contents := by
    rw [sheetPath, FileTree.read, hcontents]
  rw [readSheet] at hmissing
  split at hmissing
  · rename_i cause hfails
    cases hmissing
    rw [FileTree.readText, hread] at hfails
    dsimp only at hfails
    split at hfails <;> cases hfails
  · split at hmissing <;> cases hmissing

/-- Where every number that is listed has a file, no sheet is missing. -/
theorem sheets_ne_notFound (h : t.sheetNumbers files = .ok numbers)
    (hfiles : ∀ n ∈ numbers, t.HasFile files n.fileName) (path : Path) :
    t.sheets files ≠ .error (.storage path .notFound) := by
  intro hmissing
  rw [Table.sheets, h] at hmissing
  obtain ⟨n, hn, hunread⟩ := exists_unread_of_readSheets hmissing
  exact readSheet_ne_notFound (hfiles n hn) path hunread

/-- A deletion counts the selected rows among those that are read. -/
theorem count_of_deleteWhere {selects : Row → Bool} {count : Nat}
    (h : t.deleteWhere selects files = .ok count after) :
    ∃ rows, t.rows files = .ok rows ∧ count = rows.countP selects := by
  obtain ⟨sheets, left, hreading, hdelete⟩ := of_bind_eq_ok h
  obtain ⟨hsheets, rfl⟩ := Storage.of_reading_ok hreading
  refine ⟨_, rows_of_sheets hsheets, ?_⟩
  rw [count_of_deleteFrom hdelete, List.countP_map, List.countP_flatMap]
  rfl

/-! ## Listings that are exact -/

/-- The listing has every sheet once, and so has everything that goes by it. -/
structure ListsExactly (t : Table) (files : FileTree) (numbers : List SheetNumber) : Prop where
  /-- The numbers are in order, and none comes again. -/
  ascending : numbers.Pairwise (· < ·)
  /-- They are the numbers whose sheets have a file. -/
  mem_iff : ∀ n, n ∈ numbers ↔ 0 < n ∧ n < Text.wordBound ∧ t.HasFile files n.fileName
  /-- The sheets are read one by one, and the rows are those of the sheets. -/
  reads : ∀ sheets, t.sheets files = .ok sheets → sheets.map Prod.fst = numbers ∧
    (∀ entry ∈ sheets, t.readSheet entry.1 files = .ok entry.2) ∧
    t.rows files = .ok ((sheets.flatMap Prod.snd).map t.row)
  /-- No sheet that is listed is missing. -/
  finds : ∀ path, t.sheets files ≠ .error (.storage path .notFound) ∧
    t.rows files ≠ .error (.storage path .notFound)
  /-- A deletion counts the selected ones among these rows. -/
  counts : ∀ selects count after, t.deleteWhere selects files = .ok count after →
    ∃ rows, t.rows files = .ok rows ∧ count = rows.countP selects

section Unpadded

variable (h : t.sheetNumbers files = .ok numbers) (hunpadded : t.Unpadded files)

include h hunpadded

theorem Unpadded.mem_iff (n : SheetNumber) :
    n ∈ numbers ↔ 0 < n ∧ n < Text.wordBound ∧ t.HasFile files n.fileName := by
  rw [mem_iff_of_sheetNumbers h, ← zero_mem_paddings]
  refine and_congr_right fun hpos => and_congr_right fun hlt => ?_
  constructor
  · rintro ⟨zeros, hzeros⟩
    rwa [Set.mem_singleton_iff.1 (hunpadded n hpos hlt hzeros)] at hzeros
  · exact fun hzero => ⟨0, hzero⟩

/-- No number has more than one file, so none is listed again. -/
theorem Unpadded.ascending : numbers.Pairwise (· < ·) := by
  have hnodup : numbers.Nodup := by
    rw [List.nodup_iff_count_le_one]
    intro n
    rw [count_of_sheetNumbers h]
    split
    · rename_i hword
      rw [← Set.ncard_singleton 0]
      exact Set.ncard_le_ncard (hunpadded n hword.1 hword.2) (Set.finite_singleton 0)
    · exact Nat.zero_le 1
  exact ((pairwise_sheetNumbers h).and hnodup).imp fun hn => Nat.lt_of_le_of_ne hn.1 hn.2

theorem ListsExactly.of_unpadded : t.ListsExactly files numbers where
  ascending := hunpadded.ascending h
  mem_iff := hunpadded.mem_iff h
  reads sheets hsheets := by
    obtain ⟨hnumbers, hread⟩ := exists_numbers_of_sheets hsheets
    exact ⟨Except.ok.inj (hnumbers.symm.trans h), hread, rows_of_sheets hsheets⟩
  finds path := by
    have hfinds := sheets_ne_notFound h fun n hn => ((hunpadded.mem_iff h n).1 hn).2.2
    refine ⟨hfinds path, fun hmissing => ?_⟩
    rcases of_bind_error hmissing with hmissing | ⟨sheets, -, hrows⟩
    · exact hfinds path hmissing
    · cases hrows
  counts _ _ _ := count_of_deleteWhere

end Unpadded

/-- If no number is listed twice and each has its file, there is no other file for it. -/
theorem ListsExactly.unpadded (h : t.sheetNumbers files = .ok numbers)
    (hexact : t.ListsExactly files numbers) : t.Unpadded files := by
  intro n hpos hlt zeros hzeros
  have hlisted : n ∈ numbers := (mem_iff_of_sheetNumbers h n).2 ⟨hpos, hlt, zeros, hzeros⟩
  have hnodup : numbers.Nodup := hexact.ascending.imp Nat.ne_of_lt
  have hcount := count_of_sheetNumbers h n
  rw [List.count_eq_one_of_mem hnodup hlisted, if_pos ⟨hpos, hlt⟩] at hcount
  obtain ⟨only, honly⟩ := Set.ncard_eq_one.1 hcount.symm
  have hzero : 0 ∈ t.paddings files n := zero_mem_paddings.2 ((hexact.mem_iff n).1 hlisted).2.2
  rw [honly] at hzeros hzero
  rw [Set.mem_singleton_iff.1 hzeros, Set.mem_singleton_iff.1 hzero]
  rfl

/-- In a directory of any contents the numbers of the sheets are listed in order, and each is listed
once for each file that has the name of its sheet, with zeros or without.  The listing is exact if no
file has zeros in front of its number, and only then. -/
theorem listsExactly_iff_unpadded (hdir : files.get? t.dir = some .directory) :
    ∃ numbers, t.sheetNumbers files = .ok numbers ∧ numbers.Pairwise (· ≤ ·) ∧
      (∀ n, numbers.count n
        = if 0 < n ∧ n < Text.wordBound then (t.paddings files n).ncard else 0) ∧
      (t.ListsExactly files numbers ↔ t.Unpadded files) := by
  obtain ⟨numbers, h, -⟩ := mem_sheetNumbers hdir
  exact ⟨numbers, h, pairwise_sheetNumbers h, count_of_sheetNumbers h,
    ListsExactly.unpadded h, ListsExactly.of_unpadded h⟩

/-- The third record of the small database has a second sheet, and a directory that is named like a
third is not listed. -/
theorem sample_listsExactly :
    let files := (runSteps sample.step
      [.insert "beer" ["Duvel", "Ale"], .insert "beer" ["Orval", "Trappist"],
        .insert "beer" ["Kriek", "Lambic"]]
      (stateOf (sample.ensure FileTree.empty))).2.put sampleBeer.dir "3.csv" .directory
    sampleBeer.sheetNumbers files = .ok [1, 2] ∧ sampleBeer.ListsExactly files [1, 2] := by
  intro files
  have hdir : files.get? sampleBeer.dir = some .directory := by decide +kernel
  have hlisted : sampleBeer.sheetNumbers files = .ok [1, 2] := by decide +kernel
  obtain ⟨entries, hlist, hzero⟩ : ∃ entries, files.list sampleBeer.dir = .ok entries ∧
      ∀ entry ∈ entries, entry.1.toList.head? ≠ some '0' := by
    obtain ⟨entries, hlist, -, hmem⟩ := FileTree.exists_list hdir
    have hall : (files.list sampleBeer.dir).map
        (·.all fun entry => entry.1.toList.head? != some '0') = .ok true := by decide +kernel
    rw [hlist] at hall
    refine ⟨entries, hlist, fun entry hentry => ?_⟩
    exact bne_iff_ne.1 (List.all_eq_true.1 (Except.ok.inj hall) entry hentry)
  obtain ⟨numbers, h, -, -, hexact⟩ := listsExactly_iff_unpadded hdir
  obtain rfl := Except.ok.inj (h.symm.trans hlisted)
  exact ⟨hlisted, hexact.2 (unpadded_of_list hlist hzero)⟩

/-- A second file for one sheet, with a zero in front, has the record of the sheet read twice and
counted twice. -/
theorem sample_lists_twice :
    let files := (runSteps sample.step [.insert "beer" ["Duvel", "Ale"]]
      (stateOf (sample.ensure FileTree.empty))).2.put sampleBeer.dir "01.csv" (.file "".toUTF8)
    sampleBeer.sheetNumbers files = .ok [1, 1] ∧
      sampleBeer.sheets files = .ok [(1, [["1", "Duvel", "Ale"]]), (1, [["1", "Duvel", "Ale"]])] ∧
      answerOf (sampleBeer.deleteWhere (fun _ => true) files) = .ok 2 := by
  decide +kernel

end Table

end SheetStore
