import SheetStore.Proofs.Steps
import SheetStore.Proofs.Table.Appending

/-!
# Insertions into arbitrary files

The files of a database may have been changed by others.  Then an insertion can fail in the middle,
and it can meet sheets that no database has written.

* An insertion that fails keeps the next key, and keeps the rows unless it fails at the temporary
  sibling of the key sequence (`failed_insert_keeps`).  There the record is stored and its key is
  given again: the sequence advances only after the record.
* An insertion that succeeds adds its record to the sheets as they are read, unless the text of its
  sheet does not end with a line feed (`insert_adds_record`).
-/

namespace SheetStore

/-! ## Insertions that fail -/

namespace Database

variable {db : Database} {name : String} {t : Table} {files after : FileTree} {key : Nat}
  {values : List String}

/-- Where values are refused, nothing has changed, and otherwise the table does the work. -/
theorem insert_cases (ht : db.table? name = some t) (values : List String) (files : FileTree) :
    (∃ failure, db.insert name values files = .error failure files) ∨
      db.insert name values files = t.insert db.schema.sheetLimit values files := by
  cases htable : db.insertionTable name values with
  | error failure => exact .inl ⟨failure, bind_of_error (Storage.reading_of_error htable)⟩
  | ok u =>
      obtain rfl := Option.some.inj (ht.symm.trans (checks_of_insertionTable htable).1)
      exact .inr (bind_of_ok (Storage.reading_of_ok htable))

/-- An insertion that fails, whatever the files and the failure, keeps the next key of its table.
It keeps the rows as well, unless a directory stands where the key sequence has its temporary
sibling. -/
theorem failed_insert_keeps (ht : db.table? name = some t) {failure : Failure}
    (h : db.insert name values files = .error failure after) :
    t.nextKey after = t.nextKey files ∧ (t.rows after = t.rows files ∨
      files.get? (Storage.temporary t.keyPath) = some .directory ∧
        failure = .storage (Storage.temporary t.keyPath) .isADirectory) := by
  rcases insert_cases ht values files with ⟨failure', hrefused⟩ | hinsert
  · cases hrefused.symm.trans h
    exact ⟨rfl, .inl rfl⟩
  · exact Table.insert_error_keeps (hinsert.symm.trans h)

/-- A directory that has the name of the next sheet stops an insertion after its first write. -/
theorem sample_failed_insert_keeps :
    let files := (runSteps sample.step
      [.insert "beer" ["Duvel", "Ale"], .insert "beer" ["Orval", "Trappist"]]
      (stateOf (sample.ensure FileTree.empty))).2.put (sample.dir.entry "beer") "2.csv" .directory
    let after := stateOf (sample.insert "beer" ["Kriek", "Lambic"] files)
    answerOf (sample.insert "beer" ["Kriek", "Lambic"] files)
        = .error (.storage ((sample.dir.entry "beer").entry "2.csv") .isADirectory) ∧
      sampleBeer.nextKey after = sampleBeer.nextKey files ∧
      sampleBeer.rows after = sampleBeer.rows files := by
  intro files after
  have hfails : answerOf (sample.insert "beer" ["Kriek", "Lambic"] files)
      = .error (.storage ((sample.dir.entry "beer").entry "2.csv") .isADirectory) := by
    decide +kernel
  obtain ⟨hkey, hrows⟩ := failed_insert_keeps table?_sample_beer (eq_error_of_answerOf hfails)
  exact ⟨hfails, hkey, hrows.resolve_right fun hstopped => absurd hstopped.2 (by decide)⟩

/-- If a directory stands where the key sequence has its temporary sibling, two insertions that fail
store two records of one key. -/
theorem sample_failed_inserts_store :
    let files := (stateOf (sample.ensure FileTree.empty)).put (sample.dir.entry "beer")
      "beer_pk_sequence.tmp" .directory
    let once := stateOf (sample.insert "beer" ["Duvel", "Ale"] files)
    let twice := stateOf (sample.insert "beer" ["Duvel", "Ale"] once)
    let failure := Failure.storage ((sample.dir.entry "beer").entry "beer_pk_sequence.tmp")
      .isADirectory
    answerOf (sample.insert "beer" ["Duvel", "Ale"] files) = .error failure ∧
      answerOf (sample.insert "beer" ["Duvel", "Ale"] once) = .error failure ∧
      sample.select ["beer.beer_pk", "beer.name"] ["beer"] none files = .ok [] ∧
      sample.select ["beer.beer_pk", "beer.name"] ["beer"] none twice
        = .ok [["1", "Duvel"], ["1", "Duvel"]] := by
  decide +kernel

end Database

/-! ## Insertions that succeed -/

namespace Table

open Database

variable {t : Table} {files after : FileTree} {limit key : Nat} {values : List String}
  {sheets : List (SheetNumber × Sheet)}

/-- An insertion into sheets that can be read, which answers a key, changes the file of one sheet: the
first with room, or a new one, if its number is still a word.  If there was no such file, or its text
ends with a line feed, then the record is added to what is read.  Otherwise the record continues the
last line, and the sheets cannot be read any more. -/
theorem insert_adds_record (hp : t.Proper) (hsheets : t.sheets files = .ok sheets)
    (hwidth : values.length + 1 = t.columns.length)
    (hfree : ∀ v ∈ values, ',' ∉ v.toList ∧ '\n' ∉ v.toList ∧ '\r' ∉ v.toList)
    (h : t.insert limit values files = .ok key after) :
    ∃ numbers found n, t.Reads limit files key numbers found ∧ n = targetNumber numbers found ∧
      (∀ m, m ≠ n → after.get? (t.sheetPath m) = files.get? (t.sheetPath m)) ∧
      (n < Text.wordBound →
        ((∀ text, files.readText (t.sheetPath n) = .ok text → text.toList.getLast? = some '\n') →
          t.sheets after = .ok (Sheet.addRecord n (keyedRecord key values) sheets)) ∧
        ∀ text, files.readText (t.sheetPath n) = .ok text → text.toList.getLast? ≠ some '\n' →
          ∃ fault, t.sheets after = .error (.unreadable (.sheetFile (t.sheetPath n) fault))) := by
  obtain ⟨numbers, found, contents, hinserted⟩ := exists_inserted h
  have hread : t.readSheets files numbers = .ok sheets := by
    rw [Table.sheets, hinserted.reads.sheetNumbers] at hsheets
    exact hsheets
  have hfits : Sheet.Fits t.columns.length [keyedRecord key values] :=
    Database.fits_keyedRecord hfree hwidth hp.wide key
  refine ⟨numbers, found, targetNumber numbers found, hinserted.reads, rfl,
    fun m hm => hinserted.sheet hm, fun hword => ?_⟩
  cases found with
  | some n =>
      obtain ⟨hmem, sheet, hsheet, -⟩ := of_firstWithRoom? hinserted.reads.firstWithRoom
      obtain ⟨text, htext, -⟩ := exists_text_of_readSheet hsheet
      constructor
      · intro hended
        exact hinserted.sheets_of_ended hread hmem htext (hended text htext) hfits
      · intro other hother hunended
        exact hinserted.sheets_of_unended hread hmem hother hunended hp.wide hfits
  | none =>
      refine ⟨fun _ => hinserted.sheets_of_fresh hread hword hp.header hfits, fun text htext => ?_⟩
      exact absurd ⟨_, FileTree.get?_of_readText htext⟩ (hinserted.not_hasFile hword)

/-- The third record of the small database starts a new sheet. -/
theorem sample_insert_adds_record :
    let files := (runSteps sample.step
      [.insert "beer" ["Duvel", "Ale"], .insert "beer" ["Orval", "Trappist"]]
      (stateOf (sample.ensure FileTree.empty))).2
    answerOf (sampleBeer.insert 2 ["Kriek", "Lambic"] files) = .ok 3 ∧
      sampleBeer.sheets (stateOf (sampleBeer.insert 2 ["Kriek", "Lambic"] files))
        = .ok [(1, [["1", "Duvel", "Ale"], ["2", "Orval", "Trappist"]]),
            (2, [["3", "Kriek", "Lambic"]])] := by
  intro files
  have hsheets : sampleBeer.sheets files
      = .ok [(1, [["1", "Duvel", "Ale"], ["2", "Orval", "Trappist"]])] := by decide +kernel
  have hinsert : answerOf (sampleBeer.insert 2 ["Kriek", "Lambic"] files) = .ok 3 := by
    decide +kernel
  obtain ⟨numbers, found, n, hreads, hn, -, hadded⟩ :=
    insert_adds_record (proper_of_table? validate_sample table?_sample_beer) hsheets (by decide)
      (by decide) (eq_ok_of_answerOf hinsert)
  have hnumbers : sampleBeer.sheetNumbers files = .ok [1] := by decide +kernel
  have hfound : sampleBeer.firstWithRoom? 2 files [1] = .ok none := by decide +kernel
  obtain rfl := Except.ok.inj (hreads.sheetNumbers.symm.trans hnumbers)
  obtain rfl := Except.ok.inj (hreads.firstWithRoom.symm.trans hfound)
  have hmissing : files.readText (sampleBeer.sheetPath 2) = .error .notFound := by decide +kernel
  refine ⟨hinsert, ?_⟩
  subst hn
  rw [(hadded (by decide)).1 fun text htext => by cases hmissing.symm.trans htext]
  rfl

/-- A sheet whose last line has no ending loses both records to one line. -/
theorem sample_insert_continues_line :
    let files := ((stateOf (sample.ensure FileTree.empty)).put sampleBeer.dir "1.csv"
      (.file "beer_pk,name,style\n1,Duvel,Ale".toUTF8)).put sampleBeer.dir "beer_pk_sequence"
      (.file "2".toUTF8)
    sampleBeer.sheets files = .ok [(1, [["1", "Duvel", "Ale"]])] ∧ sampleBeer.nextKey files = .ok 2 ∧
      answerOf (sampleBeer.insert 2 ["Orval", "Trappist"] files) = .ok 2 ∧
      sampleBeer.sheets (stateOf (sampleBeer.insert 2 ["Orval", "Trappist"] files))
        = .error (.unreadable (.sheetFile (sampleBeer.sheetPath 1) (.wrongWidth 1 5 3))) := by
  decide +kernel

end Table

end SheetStore
