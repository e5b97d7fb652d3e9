import SheetStore.Proofs.Steps
import SheetStore.Proofs.Table.Failures
import SheetStore.Proofs.Table.Rewriting

/-!
# Deletions that fail

A deletion of the rows that a condition selects can fail in the middle, but never in the middle of a
sheet.

* If one of the sheets cannot be read, it fails before it writes anything
  (`exists_stopped_of_deleteWhere`).
* Otherwise it has gone through the sheets up to one, in the order of their numbers, and that one
  and all after it are as before (`Table.Stopped`).

So every sheet has either all of its records or exactly those that the condition leaves
(`failed_deleteWhere_stops`).  What is in the way can only be a directory that has the name of a
temporary sibling.
-/

namespace SheetStore

namespace Table

variable {t : Table} {selects : Row → Bool} {files after : FileTree}
  {sheets : List (SheetNumber × Sheet)} {failure : Failure}

/-! ## What is listed after rewriting -/

/-- Sheets are rewritten in place, so the same numbers are listed. -/
theorem Rewritten.sheetNumbers (h : t.Rewritten selects sheets files after)
    (hdir : files.get? t.dir = some .directory)
    (hfiles : ∀ entry ∈ sheets, t.HasFile files entry.1.fileName) :
    t.sheetNumbers after = t.sheetNumbers files := by
  refine sheetNumbers_congr hdir (h.directory.trans hdir) fun name hname => ?_
  by_cases hloses : ∃ entry ∈ sheets, t.Loses selects entry.2 ∧ name = entry.1.fileName
  · obtain ⟨entry, hentry, hloses, rfl⟩ := hloses
    exact iff_of_true ⟨_, h.replaced entry hentry hloses⟩ (hfiles entry hentry)
  · obtain ⟨n, hn⟩ := Option.isSome_iff_exists.1 hname
    have hsame : after.get? (t.dir.entry name) = files.get? (t.dir.entry name) := by
      refine h.same _ fun entry hentry hentryLoses => ⟨fun heq => ?_, ?_⟩
      · exact hloses ⟨entry, hentry, hentryLoses, Path.entry_inj.1 heq⟩
      · refine entry_ne_of_getLast? ?_
        rw [SheetNumber.getLast?_of_ofFileName? hn, getLast?_temporary]
        decide
    rw [HasFile, HasFile, hsame]

/-! ## Where a deletion stops -/

/-- What a deletion leaves that has gone through the sheets `done` and not through the sheets
`rest`. -/
structure Stopped (t : Table) (selects : Row → Bool) (done rest : List (SheetNumber × Sheet))
    (files after : FileTree) : Prop where
  /-- The sheets come in ascending order. -/
  ascending : (done ++ rest).Pairwise fun entry other => entry.1 ≤ other.1
  /-- None of those that remain has been gone through. -/
  split : ∀ entry ∈ done, ∀ other ∈ rest, entry.1 < other.1
  /-- A sheet with selected records has lost them and holds the others, in their order. -/
  replaced : ∀ entry ∈ done, t.Loses selects entry.2 → after.get? (t.sheetPath entry.1)
    = some (.file (Sheet.encode t.columns (t.remaining selects entry.2)).toUTF8)
  /-- A sheet without selected records is as before. -/
  kept : ∀ entry ∈ done, ¬ t.Loses selects entry.2 →
    after.get? (t.sheetPath entry.1) = files.get? (t.sheetPath entry.1)
  /-- The sheets that remain are as before. -/
  untouched : ∀ entry ∈ rest,
    after.get? (t.sheetPath entry.1) = files.get? (t.sheetPath entry.1)
  /-- The key sequence is as before. -/
  key : after.get? t.keyPath = files.get? t.keyPath
  /-- No sheet has come or gone. -/
  numbers : t.sheetNumbers after = t.sheetNumbers files
  /-- Nothing else has changed but temporary siblings of sheets that were gone through. -/
  same : ∀ p, (∀ entry ∈ done, p ≠ t.sheetPath entry.1 ∧
    p ≠ Storage.temporary (t.sheetPath entry.1)) → after.get? p = files.get? p

/-- Sheets that are read are one for each number. -/
theorem consistent_of_sheets (h : t.sheets files = .ok sheets) : Consistent sheets := by
  intro entry hentry other hother heq
  have hread := (exists_numbers_of_sheets h).2
  have hsheet := hread entry hentry
  rw [heq, hread other hother] at hsheet
  exact Prod.ext heq (Except.ok.inj hsheet).symm

/-- A deletion that fails after all sheets are read has stopped at a sheet whose temporary sibling is
in the way. -/
theorem exists_stopped_of_deleteWhere (hsheets : t.sheets files = .ok sheets)
    (h : t.deleteWhere selects files = .error failure after) :
    ∃ done n sheet rest, sheets = done ++ (n, sheet) :: rest ∧ t.Loses selects sheet ∧
      files.get? (Storage.temporary (t.sheetPath n)) = some .directory ∧
      failure = .storage (Storage.temporary (t.sheetPath n)) .isADirectory ∧
      t.Stopped selects done ((n, sheet) :: rest) files after := by
  have hdelete : t.deleteWhere selects files = t.deleteFrom selects sheets files :=
    bind_of_ok (Storage.reading_of_ok hsheets)
  obtain ⟨hnumbers, hread⟩ := exists_numbers_of_sheets hsheets
  have hdir := directory_of_sheetNumbers hnumbers
  have hfiles : ∀ entry ∈ sheets, t.HasFile files entry.1.fileName :=
    fun entry hentry => hasFile_of_readSheet (hread entry hentry)
  have hconsistent := consistent_of_sheets hsheets
  have hascending : sheets.Pairwise fun entry other => entry.1 ≤ other.1 :=
    List.pairwise_map.1 (pairwise_sheetNumbers hnumbers)
  rw [hdelete] at h
  rcases deleteFrom_cases selects hdir hfiles hconsistent with
    ⟨count, left, hok, -⟩ | ⟨done, n, sheet, rest, left, rfl, hloses, hfails, hrewritten, htemp⟩
  · cases hok.symm.trans h
  cases hfails.symm.trans h
  obtain ⟨-, hrest, hle⟩ := List.pairwise_append.1 hascending
  have hstop : ∀ entry ∈ done, entry.1 < n := by
    intro entry hentry
    refine Nat.lt_of_le_of_ne (hle entry hentry _ List.mem_cons_self) fun heq => ?_
    -- otherwise this is the sheet itself, and its sibling has been moved away
    obtain rfl := hconsistent entry (List.mem_append_left _ hentry) (n, sheet)
      (List.mem_append_right _ List.mem_cons_self) heq
    cases (hrewritten.moved _ hentry hloses).symm.trans htemp
  have hsplit : ∀ entry ∈ done, ∀ other ∈ (n, sheet) :: rest, entry.1 < other.1 := by
    intro entry hentry other hother
    rcases List.mem_cons.1 hother with rfl | hother
    · exact hstop entry hentry
    · exact Nat.lt_of_lt_of_le (hstop entry hentry) (List.rel_of_pairwise_cons hrest hother)
  refine ⟨done, n, sheet, rest, rfl, hloses, ?_, rfl, hascending, hsplit, hrewritten.replaced,
    ?_, ?_, hrewritten.key, ?_, ?_⟩
  · rw [← htemp]
    refine (hrewritten.same _ fun entry hentry _ =>
      ⟨(sheetPath_ne_temporary t entry.1 _).symm, fun heq => ?_⟩).symm
    have hequal := SheetNumber.fileName_inj.1 (Storage.temporary_inj.1 heq)
    exact (hstop entry hentry).ne hequal.symm
  · intro entry hentry hkeeps
    refine hrewritten.sheet_of_not_loses fun other hother heq => ?_
    rwa [hconsistent other (List.mem_append_left _ hother) entry
      (List.mem_append_left _ hentry) heq]
  · intro other hother
    refine hrewritten.sheet_of_not_loses fun entry hentry heq => ?_
    exact absurd heq (hsplit entry hentry other hother).ne
  · exact hrewritten.sheetNumbers hdir fun entry hentry =>
      hfiles entry (List.mem_append_left _ hentry)
  · exact fun p hp => hrewritten.same p fun entry hentry _ => hp entry hentry

end Table

namespace Database

variable {db : Database} {name : String} {t : Table} {condition : Condition}
  {files after : FileTree} {failure : Failure}

/-- A deletion that fails, whatever the files and the failure, changes nothing if a sheet cannot be
read or if the sheets cannot be listed.  Otherwise it has gone through the sheets up to one and has
left that one and all that come after it alone, as well as the key sequence. -/
theorem failed_deleteWhere_stops (ht : db.table? name = some t)
    (h : db.deleteWhere name condition files = .error failure after) :
    (∀ n, t.Unreadable n files → after = files) ∧
      ((∀ sheets, t.sheets files ≠ .ok sheets) → after = files) ∧
      ∀ sheets, t.sheets files = .ok sheets →
        ∃ done n sheet rest, sheets = done ++ (n, sheet) :: rest ∧
          t.Loses (condition.admits [name] name) sheet ∧
          files.get? (Storage.temporary (t.sheetPath n)) = some .directory ∧
          failure = .storage (Storage.temporary (t.sheetPath n)) .isADirectory ∧
          t.Stopped (condition.admits [name] name) done ((n, sheet) :: rest) files after := by
  have hdelete : db.deleteWhere name condition files
      = t.deleteWhere (condition.admits [name] name) files :=
    bind_of_ok (Storage.reading_of_ok (table_of_table? ht))
  rw [hdelete] at h
  have hunread : ∀ cause, t.sheets files = .error cause → after = files := by
    intro cause hsheets
    have hfails := bind_of_error (f := t.deleteFrom (condition.admits [name] name))
      (Storage.reading_of_error hsheets)
    cases hfails.symm.trans h
    rfl
  refine ⟨fun n hn => ?_, fun hnone => ?_, fun sheets hsheets => ?_⟩
  · obtain ⟨cause, hsheets⟩ := hn.sheets
    exact hunread cause hsheets
  · cases hsheets : t.sheets files with
    | error cause => exact hunread cause hsheets
    | ok sheets => exact absurd hsheets (hnone sheets)
  · exact Table.exists_stopped_of_deleteWhere hsheets h

/-- The records of the first sheet that are selected are gone, and those of the second are not. -/
theorem sample_failed_deleteWhere_stops :
    let files := (runSteps sample.step
      [.insert "beer" ["Duvel", "Ale"], .insert "beer" ["Orval", "Trappist"],
        .insert "beer" ["Saison", "Ale"]]
      (stateOf (sample.ensure FileTree.empty))).2.put sampleBeer.dir "2.csv.tmp" .directory
    let condition := Condition.equals "beer" "style" "Ale"
    let after := stateOf (sample.deleteWhere "beer" condition files)
    answerOf (sample.deleteWhere "beer" condition files)
        = .error (.storage (sampleBeer.dir.entry "2.csv.tmp") .isADirectory) ∧
      sampleBeer.Stopped (condition.admits ["beer"] "beer")
        [(1, [["1", "Duvel", "Ale"], ["2", "Orval", "Trappist"]])]
        [(2, [["3", "Saison", "Ale"]])] files after := by
  intro files condition after
  have hfails : answerOf (sample.deleteWhere "beer" condition files)
      = .error (.storage (sampleBeer.dir.entry "2.csv.tmp") .isADirectory) := by decide +kernel
  have hsheets : sampleBeer.sheets files
      = .ok [(1, [["1", "Duvel", "Ale"], ["2", "Orval", "Trappist"]]),
          (2, [["3", "Saison", "Ale"]])] := by decide +kernel
  obtain ⟨-, -, hread⟩ :=
    failed_deleteWhere_stops table?_sample_beer (eq_error_of_answerOf hfails)
  obtain ⟨done, n, sheet, rest, heq, -, -, hfailure, hstopped⟩ := hread _ hsheets
  have hn : n = 2 := by
    rw [Failure.storage.injEq] at hfailure
    exact SheetNumber.fileName_inj.1 (Storage.temporary_inj.1 (hfailure.1.symm.trans (by decide)))
  subst hn
  refine ⟨hfails, ?_⟩
  rcases done with - | ⟨first, - | ⟨second, done⟩⟩
  · cases heq
  · cases heq
    exact hstopped
  · exact absurd (List.cons.inj (List.cons.inj heq).2).2 (by simp)

end Database

end SheetStore
