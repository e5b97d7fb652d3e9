import SheetStore.Proofs.Table.Contents

/-!
# How the changes of a table act on its contents

An action *yields* an answer and contents for a table (`Table.Yields`) if it succeeds with that
answer, the table holds those contents afterwards, and nothing outside the directory of the table
differs.  On a table that holds contents

* an insertion yields the next key and the contents with the record placed (`insert_yields`),
* a conditional deletion yields the number of selected records and the contents without them
  (`deleteWhere_yields`),
* clearing yields the contents of a new table (`clear_yields`),
* and nothing is missing, so that making it changes nothing (`Holds.hasFiles`,
  `ensure_of_hasFiles`).

All of them are built from two changes of the files, a new text for one sheet and a new text for the
key sequence (`Holds.put_sheet`, `Holds.put_key`).  The contents of a table depend on the files below
its directory alone, and the other way round (`Holds.congr`, `Holds.get?_eq`).
-/

namespace SheetStore

namespace Table

variable {t : Table} {files : FileTree} {c : Contents}

/-- The action answers and leaves the contents, and acts below the directory of the table. -/
def Yields (t : Table) (action : Storage α) (files : FileTree) (a : α) (c : Contents) : Prop :=
  ∃ files', action files = .ok a files' ∧ t.Holds files' c ∧ files.SameOutside t.dir files'

theorem Yields.bind {x : Storage α} {f : α → Storage β} {a : α} {b : β} {c' : Contents}
    (hx : t.Yields x files a c) (hf : ∀ files', t.Holds files' c → t.Yields (f a) files' b c') :
    t.Yields (x >>= f) files b c' := by
  obtain ⟨files₁, hrun, hholds, hsame⟩ := hx
  obtain ⟨files₂, hrun', hholds', hsame'⟩ := hf files₁ hholds
  exact ⟨files₂, (bind_of_ok hrun).trans hrun', hholds', hsame.trans hsame'⟩

theorem Yields.reading_bind {question : FileTree → Except Failure α} {f : α → Storage β} {a : α}
    {b : β} (hq : question files = .ok a) (hf : t.Yields (f a) files b c) :
    t.Yields (Storage.reading question >>= f) files b c := by
  obtain ⟨files', hrun, hrest⟩ := hf
  exact ⟨files', (bind_of_ok (Storage.reading_of_ok hq)).trans hrun, hrest⟩

theorem Yields.pure (h : t.Holds files c) (a : α) : t.Yields (pure a) files a c :=
  ⟨files, rfl, h, .refl _ _⟩

/-! ## Two changes of the files -/

theorem keyPath_ne_sheetPath (t : Table) (n : SheetNumber) : t.keyPath ≠ t.sheetPath n := by
  intro heq
  rw [keyPath, sheetPath, Path.entry_inj] at heq
  have hlast := SheetNumber.fileName_getLast? n
  rw [← heq] at hlast
  simp at hlast

theorem sheetPath_inj (t : Table) {m n : SheetNumber} : t.sheetPath m = t.sheetPath n ↔ m = n := by
  rw [sheetPath, sheetPath, Path.entry_inj, SheetNumber.fileName_inj]

/-- No entry of the table is a directory. -/
theorem Holds.not_directory (h : t.Holds files c) (name : String) :
    files.get? (t.dir.entry name) ≠ some .directory := by
  intro hdir
  rcases h.only name _ hdir with heq | ⟨i, hi, heq⟩
  · rw [heq, h.key] at hdir
    cases hdir
  · rw [heq, h.sheet i c.pages[i] (List.getElem?_eq_getElem hi)] at hdir
    cases hdir

/-- A sheet gets the text of one page, and the other pages stay. -/
theorem Holds.put_sheet {pages : List Sheet} {i : Nat} {page : Sheet} (h : t.Holds files c)
    (hpage : pages[i]? = some page) (hothers : ∀ j, j ≠ i → pages[j]? = c.pages[j]?) :
    t.Holds (files.put t.dir (SheetNumber.fileName (i + 1))
      (.file (Sheet.encode t.columns page).toUTF8)) { c with pages := pages } := by
  obtain ⟨text, htext⟩ : ∃ text, text = (Sheet.encode t.columns page).toUTF8 := ⟨_, rfl⟩
  have hview : ∀ q, (files.put t.dir (SheetNumber.fileName (i + 1)) (.file text)).get? q
      = if q = t.sheetPath (i + 1) then some (.file text) else files.get? q :=
    FileTree.get?_put h.directory (.inr (h.not_directory _))
  rw [← htext]
  constructor
  · intro j page' hpage'
    rw [hview]
    by_cases hj : j = i
    · subst hj
      rw [hpage] at hpage'
      cases hpage'
      rw [if_pos rfl, htext]
    · rw [if_neg]
      · exact h.sheet j page' ((hothers j hj).symm.trans hpage')
      · intro heq
        exact hj (Nat.succ.inj (t.sheetPath_inj.1 heq))
  · rw [hview, if_neg (keyPath_ne_sheetPath t (i + 1))]
    exact h.key
  · intro name node hnode
    rw [hview] at hnode
    split at hnode
    · rename_i heq
      exact .inr ⟨i, (List.getElem?_eq_some_iff.1 hpage).1, heq⟩
    · rename_i hne
      rcases h.only name node hnode with heq | ⟨j, hj, heq⟩
      · exact .inl heq
      · have hji : j ≠ i := by
          rintro rfl
          exact hne heq
        have hsome := (hothers j hji).trans (List.getElem?_eq_getElem hj)
        exact .inr ⟨j, (List.getElem?_eq_some_iff.1 hsome).1, heq⟩

/-- The key sequence gets another key. -/
theorem Holds.put_key (h : t.Holds files c) (key : Nat) :
    t.Holds (files.put t.dir (t.name ++ "_pk_sequence") (.file (toString key).toUTF8))
      { c with nextKey := key } := by
  have hview : ∀ q, (files.put t.dir (t.name ++ "_pk_sequence")
      (.file (toString key).toUTF8)).get? q
      = if q = t.keyPath then some (.file (toString key).toUTF8) else files.get? q :=
    FileTree.get?_put h.directory (.inr (h.not_directory _))
  constructor
  · intro j page hpage
    rw [hview, if_neg (fun heq => keyPath_ne_sheetPath t (j + 1) heq.symm)]
    exact h.sheet j page hpage
  · rw [hview]
    exact if_pos rfl
  · intro name node hnode
    rw [hview] at hnode
    split at hnode
    · rename_i heq
      exact .inl heq
    · exact h.only name node hnode

/-! ## Single steps -/

theorem appendRecord_yields (h : t.Holds files c) {i : Nat} {page : Sheet} (record : Record)
    (hpage : c.pages[i]? = some page) :
    t.Yields (t.appendRecord (i + 1) record) files ()
      { c with pages := c.pages.modify i (· ++ [record]) } := by
  have hfile := h.sheet i page hpage
  have hrun := FileTree.append_eq_put record.line.toUTF8 hfile
  have htext : (Sheet.encode t.columns page).toUTF8 ++ record.line.toUTF8
      = (Sheet.encode t.columns (page ++ [record])).toUTF8 := by
    rw [Sheet.encode_append, String.toUTF8_eq_toByteArray, String.toUTF8_eq_toByteArray,
      String.toUTF8_eq_toByteArray, String.toByteArray_append]
  rw [htext] at hrun
  refine ⟨_, Storage.change_of_ok hrun, h.put_sheet ?_ ?_,
    FileTree.sameOutside_put h.directory (.inr (h.not_directory _))⟩
  · rw [List.getElem?_modify_eq, hpage]
    rfl
  · intro j hj
    exact List.getElem?_modify_ne _ _ (Ne.symm hj)

theorem replaceText_of_holds (h : t.Holds files c) {name : String} (text : String)
    (htemp : (name ++ ".tmp").toList.getLast? = some 'p') :
    Storage.replaceText (t.dir.entry name) text files
      = .ok () (files.put t.dir name (.file text.toUTF8)) := by
  refine Storage.replaceText_eq_put h.directory (h.not_directory name) ?_
  exact h.get?_eq_none (by rw [htemp]; decide) (by rw [htemp]; decide)

theorem writeSheet_yields {pages : List Sheet} {i : Nat} {page : Sheet} (h : t.Holds files c)
    (hpage : pages[i]? = some page) (hothers : ∀ j, j ≠ i → pages[j]? = c.pages[j]?) :
    t.Yields (t.writeSheet (i + 1) page) files () { c with pages := pages } :=
  ⟨_, replaceText_of_holds h _ (by simp), h.put_sheet hpage hothers,
    FileTree.sameOutside_put h.directory (.inr (h.not_directory _))⟩

theorem setNextKey_yields (h : t.Holds files c) (key : Nat) :
    t.Yields (t.setNextKey key) files () { c with nextKey := key } :=
  ⟨_, replaceText_of_holds h _ (by simp), h.put_key key,
    FileTree.sameOutside_put h.directory (.inr (h.not_directory _))⟩

/-! ## Insertion -/

theorem insert_yields (hp : t.Proper) (hv : c.Valid t.columns.length) (h : t.Holds files c)
    (hkey : c.nextKey < Text.wordBound) (limit : Nat) (values : List String) :
    t.Yields (t.insert limit values) files c.nextKey (c.insert limit values) := by
  have hlen := hv.length_lt (Nat.le_of_lt hkey)
  obtain ⟨record, hrecord⟩ : ∃ r, r = keyedRecord c.nextKey values := ⟨_, rfl⟩
  have hroom := firstWithRoom?_eq hp hv h limit [] rfl
  -- the part after the record is written
  have hfinish : ∀ {pages : List Sheet}, Contents.place limit record c.pages = pages →
      ∀ files', t.Holds files' { c with pages := pages } →
        t.Yields (do t.setNextKey (c.nextKey + 1); return c.nextKey) files' c.nextKey
          (c.insert limit values) := by
    rintro pages hplace files' hfiles'
    refine (setNextKey_yields hfiles' (c.nextKey + 1)).bind fun files'' hfiles'' => ?_
    rw [Contents.insert, ← hrecord, hplace]
    exact .pure hfiles'' _
  refine .reading_bind (nextKey_eq h hkey) (.reading_bind (sheetNumbers_eq h hlen)
    (.reading_bind hroom ?_))
  rw [← hrecord]
  cases hfind : c.pages.findIdx? (·.length < limit) with
  | some i =>
      have hi : i < c.pages.length := (List.findIdx?_eq_some_iff_findIdx_eq.1 hfind).1
      have hplace : Contents.place limit record c.pages = c.pages.modify i (· ++ [record]) := by
        simp only [Contents.place, hfind]
      have happend := appendRecord_yields h record (List.getElem?_eq_getElem hi)
      simp only [Option.map_some, List.length_nil, Nat.zero_add]
      exact happend.bind (hfinish hplace)
  | none =>
      have hplace : Contents.place limit record c.pages = c.pages ++ [[record]] := by
        simp only [Contents.place, hfind]
      have hlast : (c.pages ++ [[record]])[c.pages.length]? = some [record] := by simp
      have hothers : ∀ j, j ≠ c.pages.length → (c.pages ++ [[record]])[j]? = c.pages[j]? := by
        intro j hj
        rcases Nat.lt_or_gt_of_ne hj with hlt | hgt
        · exact List.getElem?_append_left hlt
        · rw [List.getElem?_eq_none (by simp; omega), List.getElem?_eq_none (by omega)]
      have hwrite := writeSheet_yields h hlast hothers
      -- the number after the last one
      have hnext : (((List.range' 1 c.pages.length).getLast?.map SheetNumber.next).getD .first)
          = c.pages.length + 1 := by
        have hpos := List.length_pos_iff.2 hv.pages_ne_nil
        rw [List.getLast?_range', if_neg (by omega)]
        simp [SheetNumber.next, Nat.add_comm]
      simp only [Option.map_none, hnext]
      exact hwrite.bind (hfinish hplace)

/-! ## Conditional deletion -/

/-- The number of records that a filter takes away. -/
theorem length_sub_length_filter (p : Record → Bool) (sheet : Sheet) :
    sheet.length - (sheet.filter fun r => !p r).length = sheet.countP p := by
  have := List.length_eq_countP_add_countP p (l := sheet)
  rw [← List.countP_eq_length_filter]
  simp only [Bool.not_eq_true, Bool.decide_eq_false] at this
  omega

/-- Each page in turn is replaced by what is left of it. -/
theorem deleteFrom_yields (selects : Row → Bool) (done : List Sheet) {rest : List Sheet}
    (h : t.Holds files c) (hpages : c.pages = done ++ rest) :
    t.Yields (t.deleteFrom selects (Sheet.numbered (done.length + 1) rest)) files
      (rest.flatten.countP fun r => selects (t.row r))
      { c with pages := done ++ rest.map fun page =>
        page.filter fun r => !selects (t.row r) } := by
  induction rest generalizing done files c with
  | nil =>
      rw [List.map_nil, ← hpages]
      exact .pure h 0
  | cons page rest ih =>
      obtain ⟨kept, hkept⟩ : ∃ kept, kept = page.filter fun r => !selects (t.row r) := ⟨_, rfl⟩
      have hcount : page.length - kept.length = page.countP fun r => selects (t.row r) := by
        rw [hkept]
        exact length_sub_length_filter (fun r => selects (t.row r)) page
      have hrest : ∀ files', t.Holds files' { c with pages := done ++ kept :: rest } →
          t.Yields (do return page.length - kept.length
              + (← t.deleteFrom selects (Sheet.numbered (done.length + 1 + 1) rest)))
            files' ((page :: rest).flatten.countP fun r => selects (t.row r))
            { c with pages := done ++ (page :: rest).map fun page =>
              page.filter fun r => !selects (t.row r) } := by
        intro files' hfiles'
        have hdone := ih (done ++ [kept]) hfiles' (by simp)
        rw [List.length_append, List.length_singleton] at hdone
        refine hdone.bind fun files'' hfiles'' => ?_
        rw [hcount, List.flatten_cons, List.countP_append]
        rw [List.append_assoc, List.singleton_append, hkept] at hfiles''
        exact .pure hfiles'' _
      rw [Sheet.numbered, deleteFrom, ← hkept]
      split
      · refine (writeSheet_yields h (by simp) fun j hj => ?_).bind hrest
        rw [hpages]
        rcases Nat.lt_or_gt_of_ne hj with hlt | hgt
        · rw [List.getElem?_append_left hlt, List.getElem?_append_left hlt]
        · obtain ⟨k, rfl⟩ : ∃ k, j = done.length + (k + 1) := ⟨j - done.length - 1, by omega⟩
          rw [List.getElem?_append_right (by omega), List.getElem?_append_right (by omega),
            Nat.add_sub_cancel_left, List.getElem?_cons_succ, List.getElem?_cons_succ]
      · rename_i hsame
        -- nothing was selected, so the page is what it was
        have heq : kept = page := by
          rw [hkept] at hsame ⊢
          exact List.filter_sublist.eq_of_length (by simpa using hsame)
        refine hrest files ?_
        rw [heq, ← hpages]
        exact h

theorem deleteWhere_yields (hp : t.Proper) (hv : c.Valid t.columns.length) (h : t.Holds files c)
    (hkey : c.nextKey ≤ Text.wordBound) (selects : Row → Bool) :
    t.Yields (t.deleteWhere selects) files (c.records.countP fun r => selects (t.row r))
      (c.deleteWhere fun r => selects (t.row r)) := by
  exact .reading_bind (sheets_eq hp hv h (hv.length_lt hkey)) (deleteFrom_yields selects [] h rfl)

/-! ## Making a table -/

/-- There is something at the paths of the first sheet and of the key sequence. -/
structure HasFiles (t : Table) (files : FileTree) : Prop where
  /-- There is a first sheet. -/
  first : files.contains (t.sheetPath .first) = true
  /-- There is a key sequence. -/
  key : files.contains t.keyPath = true

/-- A table that has its files lacks nothing. -/
theorem ensure_of_hasFiles (h : t.HasFiles files) : t.ensure files = .ok () files := by
  obtain ⟨node, hnode⟩ := Option.isSome_iff_exists.1 h.key
  have hdir : Storage.change t.dir (·.createDirAll t.dir) files = .ok () files :=
    Storage.change_of_ok (FileTree.createDirAll_of_directory (FileTree.get?_parent hnode))
  rw [ensure, bind_of_ok hdir, bind_of_ok (Storage.ensureText_of_contains h.first)]
  exact Storage.ensureText_of_contains h.key

theorem Holds.hasFiles (hv : c.Valid t.columns.length) (h : t.Holds files c) :
    t.HasFiles files := by
  obtain ⟨page, rest, hpages⟩ := List.exists_cons_of_ne_nil hv.pages_ne_nil
  constructor
  · have := h.sheet 0 page (by simp [hpages])
    rw [FileTree.contains, show t.sheetPath .first = t.sheetPath (0 + 1) from rfl, this]
    rfl
  · rw [FileTree.contains, h.key]
    rfl

/-- Where there is nothing, the directory, the first sheet and the key sequence are made. -/
theorem exists_ensure {dir : Path} {name : String} (hname : t.dir = dir.entry name)
    (hdir : files.get? dir = some .directory) (hnone : files.get? t.dir = none) :
    ∃ files', t.ensure files = .ok () files' ∧ ∀ q, files'.get? q =
      if q = t.keyPath then some (.file "1".toUTF8)
      else if q = t.sheetPath 1 then some (.file (Record.line t.columns).toUTF8)
      else if q = t.dir then some .directory
      else files.get? q := by
  -- the directory
  obtain ⟨made, hmade, hmadeView⟩ : ∃ made, files.createDirAll t.dir = .ok made ∧
      ∀ q, made.get? q = if q = t.dir then some .directory else files.get? q := by
    rw [hname] at hnone ⊢
    exact ⟨_, FileTree.createDirAll_entry hdir hnone, FileTree.get?_put hdir (.inl rfl)⟩
  have hmadeDir : made.get? t.dir = some .directory := by rw [hmadeView, if_pos rfl]
  have hmadeFree : ∀ n, made.get? (t.dir.entry n) = none := by
    intro n
    rw [hmadeView, if_neg (Path.entry_ne _ _),
      FileTree.get?_of_holds_none hnone (Path.holds_entry _ _)]
  -- the first sheet
  obtain ⟨sheeted, hsheeted, hsheetedView⟩ :=
    Storage.exists_ensureText (Record.line t.columns) hmadeDir
      (hmadeFree (SheetNumber.fileName 1)) (hmadeFree _)
  have hsheetedDir : sheeted.get? t.dir = some .directory := by
    rw [hsheetedView, if_neg (Path.entry_ne _ _).symm, hmadeDir]
  have hsheetedFree : ∀ {n : String}, n.toList.getLast? ≠ some 'v' →
      sheeted.get? (t.dir.entry n) = none := by
    intro n hn
    rw [hsheetedView, if_neg, hmadeFree]
    rw [Path.entry_inj]
    rintro rfl
    exact hn (SheetNumber.fileName_getLast? 1)
  have hkeyFree : sheeted.get? (t.dir.entry (t.name ++ "_pk_sequence")) = none :=
    hsheetedFree (by simp)
  -- the key sequence
  obtain ⟨keyed, hkeyed, hkeyedView⟩ :=
    Storage.exists_ensureText "1" hsheetedDir hkeyFree (hsheetedFree (by simp))
  refine ⟨keyed, ?_, fun q => ?_⟩
  · rw [ensure, bind_of_ok (Storage.change_of_ok hmade)]
    exact (bind_of_ok hsheeted).trans hkeyed
  · rw [hkeyedView, hsheetedView, hmadeView]
    rfl

/-- Where there is nothing, a new table is made. -/
theorem ensure_yields {dir : Path} {name : String} (hname : t.dir = dir.entry name)
    (hdir : files.get? dir = some .directory) (hnone : files.get? t.dir = none) :
    t.Yields t.ensure files () .initial := by
  obtain ⟨files', hrun, hview⟩ := exists_ensure hname hdir hnone
  refine ⟨files', hrun, ⟨?_, ?_, ?_⟩, fun p hp => ?_⟩
  · intro i page hpage
    obtain ⟨rfl, rfl⟩ : i = 0 ∧ page = [] := by
      cases i with
      | zero => simpa [Contents.initial, eq_comm] using hpage
      | succ i => simp [Contents.initial] at hpage
    rw [hview, if_neg (keyPath_ne_sheetPath t 1).symm, if_pos rfl]
    simp [Sheet.encode]
  · rw [hview, if_pos rfl]
    rfl
  · intro n node hnode
    rw [hview] at hnode
    split at hnode
    · rename_i heq
      exact .inl heq
    · split at hnode
      · rename_i heq
        exact .inr ⟨0, by simp [Contents.initial], heq⟩
      · rw [if_neg (Path.entry_ne _ _),
          FileTree.get?_of_holds_none hnone (Path.holds_entry _ _)] at hnode
        cases hnode
  · have hne : ∀ q, t.dir.holds q = true → p ≠ q := by
      rintro q hq rfl
      rw [hq] at hp
      cases hp
    rw [hview, if_neg (hne t.keyPath (Path.holds_entry _ _)),
      if_neg (hne (t.sheetPath 1) (Path.holds_entry _ _)), if_neg (hne t.dir (Path.holds_self _))]

/-- A table that is there is emptied. -/
theorem clear_yields {dir : Path} {name : String} (hname : t.dir = dir.entry name)
    (h : t.Holds files c) : t.Yields t.clear files () .initial := by
  have hview : ∀ q, (files.dropAll t.dir).get? q
      = if t.dir.holds q then none else files.get? q := by
    rw [hname]
    exact FileTree.get?_dropAll_of_entry files dir name
  have hdir : (files.dropAll t.dir).get? dir = some .directory := by
    have hparent := h.directory
    rw [hname] at hparent
    rw [hview, hname, Path.not_holds_parent, if_neg Bool.false_ne_true]
    exact FileTree.get?_parent hparent
  have hnone : (files.dropAll t.dir).get? t.dir = none := by
    rw [hview, if_pos (Path.holds_self _)]
  obtain ⟨files', hrun, hholds, hsame⟩ := ensure_yields hname hdir hnone
  have hremove : files.removeDirAll t.dir = .ok (files.dropAll t.dir) :=
    FileTree.removeDirAll_of_directory h.directory
  refine ⟨files', ?_, hholds, fun p hp => ?_⟩
  · exact (bind_of_ok (Storage.change_of_ok (by simp only [hremove]))).trans hrun
  · rw [hsame p hp, hview, if_neg (by rw [hp]; exact Bool.false_ne_true)]

/-! ## Other tables -/

/-- The contents of a table depend on what lies below its directory alone. -/
theorem Holds.congr {files' : FileTree} (h : t.Holds files c)
    (hsame : ∀ p, t.dir.holds p = true → files'.get? p = files.get? p) : t.Holds files' c := by
  have hview : ∀ n, files'.get? (t.dir.entry n) = files.get? (t.dir.entry n) := fun n =>
    hsame _ (Path.holds_entry _ _)
  constructor
  · intro i page hpage
    rw [sheetPath, hview]
    exact h.sheet i page hpage
  · rw [keyPath, hview]
    exact h.key
  · intro n node hnode
    rw [hview] at hnode
    exact h.only n node hnode

/-! ## Contents determine files -/

theorem Holds.get?_of_some {files' : FileTree} (h : t.Holds files c) (h' : t.Holds files' c)
    {name : String} {node : Node} (hnode : files.get? (t.dir.entry name) = some node) :
    files'.get? (t.dir.entry name) = some node := by
  rcases h.only name node hnode with heq | ⟨i, hi, heq⟩
  · rw [heq] at hnode ⊢
    rw [← hnode, h.key, h'.key]
  · have hpage := List.getElem?_eq_getElem hi
    rw [heq] at hnode ⊢
    rw [← hnode, h.sheet i _ hpage, h'.sheet i _ hpage]

/-- Below the directory of a table there is no other directory. -/
theorem Holds.not_directory_below (h : t.Holds files c) :
    ∀ {p : Path}, t.dir.holds p = true → p ≠ t.dir → files.get? p ≠ some .directory
  | .base s, hp, hne => by
      rw [Path.holds, beq_iff_eq] at hp
      exact absurd hp.symm hne
  | .entry dir name, hp, hne => by
      rw [Path.holds, Bool.or_eq_true, beq_iff_eq] at hp
      rcases hp with heq | hp
      · exact absurd heq.symm hne
      · by_cases hdir : dir = t.dir
        · rw [hdir]
          exact h.not_directory name
        · intro hnode
          exact h.not_directory_below hp hdir (FileTree.get?_parent hnode)

/-- Where a table holds the same contents, it has the same files. -/
theorem Holds.get?_eq {files' : FileTree} (h : t.Holds files c) (h' : t.Holds files' c) :
    ∀ {p : Path}, t.dir.holds p = true → files'.get? p = files.get? p
  | .base s, hp => by
      rw [FileTree.get?_base, FileTree.get?_base]
  | .entry dir name, hp => by
      rw [Path.holds, Bool.or_eq_true, beq_iff_eq] at hp
      rcases hp with heq | hp
      · rw [← heq, h.directory, h'.directory]
      · by_cases hdir : dir = t.dir
        · rw [hdir]
          ext node
          exact ⟨fun hnode => h'.get?_of_some h hnode, fun hnode => h.get?_of_some h' hnode⟩
        · -- nothing lies in something that is no directory
          have hnone : ∀ {tree : FileTree}, t.Holds tree c →
              tree.get? (.entry dir name) = none := by
            intro tree htree
            cases hnode : tree.get? (.entry dir name) with
            | none => rfl
            | some node =>
                exact absurd (FileTree.get?_parent hnode) (htree.not_directory_below hp hdir)
          rw [hnone h, hnone h']

end Table

end SheetStore
