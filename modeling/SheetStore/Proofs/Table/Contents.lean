import Mathlib.Data.List.Perm.Basic
import SheetStore.Proofs.Schema
import SheetStore.Proofs.Sheet.Number
import SheetStore.Proofs.Files.Writing

/-!
# The contents of a table

`Contents` is what a table holds, without files: the next key, and the *pages*, which are the
records of its sheets in the order of the sheets.  A record is placed on the first page that holds
fewer records than the limit, or on a new page after the last one if all are full
(`Contents.place`), and a deletion filters every page in its place.

A table *holds* contents in a file tree (`Table.Holds`) if its directory has one file per page, in
which the page is encoded, the file of the key sequence, and nothing else.  Then every question
about the table is answered from the contents: `sheetNumbers_eq`, `sheets_eq`, `rows_eq`,
`nextKey_eq` and `firstWithRoom?_eq`.
-/

namespace SheetStore

/-- What a table holds. -/
structure Contents where
  /-- The next key. -/
  nextKey : Nat
  /-- The records of each sheet, in the order of the sheets. -/
  pages : List Sheet
deriving DecidableEq, Repr

namespace Contents

/-- A new table: keys start at one, and the only page is empty. -/
def initial : Contents := ⟨1, [[]]⟩

/-- All records, page by page. -/
def records (c : Contents) : List Record := c.pages.flatten

/-- Puts a record at the end of the first page that holds fewer records than the limit, or on a new
page after the last one. -/
def place (limit : Nat) (record : Record) (pages : List Sheet) : List Sheet :=
  match pages.findIdx? (·.length < limit) with
  | some i => pages.modify i (· ++ [record])
  | none => pages ++ [[record]]

/-- The contents after an insertion. -/
def insert (c : Contents) (limit : Nat) (values : List String) : Contents :=
  ⟨c.nextKey + 1, place limit (keyedRecord c.nextKey values) c.pages⟩

/-- The contents after the removal of the records that are selected. -/
def deleteWhere (c : Contents) (selects : Record → Bool) : Contents :=
  { c with pages := c.pages.map fun page => page.filter fun r => !selects r }

/-! ## Placing a record -/

@[simp] theorem place_nil (limit : Nat) (record : Record) : place limit record [] = [[record]] :=
  rfl

theorem place_cons (limit : Nat) (record : Record) (page : Sheet) (rest : List Sheet) :
    place limit record (page :: rest) =
      if page.length < limit then (page ++ [record]) :: rest
      else page :: place limit record rest := by
  rw [place, List.findIdx?_cons]
  by_cases h : page.length < limit
  · simp [h]
  · cases hrest : rest.findIdx? (·.length < limit) with
    | none => simp [h, place, hrest]
    | some i => simp [h, place, hrest]

/-- What holds of the old pages, of a page that grows and of a new page holds of all pages. -/
theorem forall_mem_place {p : Sheet → Prop} {limit : Nat} {record : Record} {pages : List Sheet}
    (hold : ∀ page ∈ pages, p page)
    (hgrow : ∀ page ∈ pages, page.length < limit → p (page ++ [record])) (hnew : p [record]) :
    ∀ page ∈ place limit record pages, p page := by
  induction pages with
  | nil => simpa using hnew
  | cons page rest ih =>
      rw [List.forall_mem_cons] at hold hgrow
      rw [place_cons]
      split
      · rename_i hroom
        rw [List.forall_mem_cons]
        exact ⟨hgrow.1 hroom, hold.2⟩
      · rw [List.forall_mem_cons]
        exact ⟨hold.1, ih hold.2 hgrow.2⟩

theorem length_place_le (limit : Nat) (record : Record) (pages : List Sheet) :
    (place limit record pages).length ≤ pages.length + 1 := by
  rw [place]
  split <;> simp

theorem place_ne_nil (limit : Nat) (record : Record) (pages : List Sheet) :
    place limit record pages ≠ [] := by
  cases pages with
  | nil => simp
  | cons page rest =>
      rw [place_cons]
      split <;> simp

/-! ## Removing records -/

theorem records_deleteWhere (c : Contents) (selects : Record → Bool) :
    (c.deleteWhere selects).records = c.records.filter fun r => !selects r :=
  List.filter_flatten.symm

/-- What was removed is not there any more. -/
theorem countP_deleteWhere (c : Contents) (selects : Record → Bool) :
    (c.deleteWhere selects).records.countP selects = 0 := by
  rw [records_deleteWhere, List.countP_eq_zero]
  intro r hr
  simpa using List.of_mem_filter hr

theorem deleteWhere_deleteWhere (c : Contents) (selects : Record → Bool) :
    (c.deleteWhere selects).deleteWhere selects = c.deleteWhere selects := by
  simp [deleteWhere, List.filter_filter]

/-! ## Valid contents -/

/-- Contents that the sheets of a table can hold and that have no more pages than keys can have
filled. -/
structure Valid (width : Nat) (c : Contents) : Prop where
  /-- There is a page. -/
  pages_ne_nil : c.pages ≠ []
  /-- Each page fits a sheet. -/
  fits : ∀ page ∈ c.pages, page.Fits width
  /-- There are fewer pages than the next key, except in a new table. -/
  few : c.pages.length < c.nextKey ∨ c = initial

theorem valid_initial (width : Nat) : initial.Valid width where
  pages_ne_nil := by simp [initial]
  fits page hpage := by
    rw [initial, List.mem_singleton] at hpage
    subst hpage
    intro r hr
    cases hr
  few := .inr rfl

theorem Valid.insert {width limit : Nat} {c : Contents} {values : List String}
    (h : c.Valid width) (hlimit : 0 < limit) (hrecord : Sheet.Fits width [keyedRecord c.nextKey values]) :
    (c.insert limit values).Valid width where
  pages_ne_nil := place_ne_nil _ _ _
  fits := forall_mem_place h.fits
    (fun page hpage _ => by
      intro r hr
      rcases List.mem_append.1 hr with hr | hr
      · exact h.fits page hpage r hr
      · exact hrecord r hr)
    hrecord
  few := by
    rcases h.few with hfew | rfl
    · exact .inl (Nat.lt_of_le_of_lt (length_place_le ..) (Nat.succ_lt_succ hfew))
    · -- the first record goes to the page that is there
      simp [Contents.insert, initial, place_cons, hlimit]

theorem Valid.deleteWhere {width : Nat} {c : Contents} (h : c.Valid width)
    (selects : Record → Bool) : (c.deleteWhere selects).Valid width where
  pages_ne_nil := by simpa [Contents.deleteWhere] using h.pages_ne_nil
  fits page hpage := by
    obtain ⟨old, hold, rfl⟩ := List.mem_map.1 hpage
    exact fun r hr => h.fits old hold r (List.mem_of_mem_filter hr)
  few := by
    rcases h.few with hfew | rfl
    · exact .inl (by simpa [Contents.deleteWhere] using hfew)
    · exact .inr rfl

/-- If the next key is at most the first number that is no word, then the numbers of all pages are
words. -/
theorem Valid.length_lt {width : Nat} {c : Contents} (h : c.Valid width)
    (hkey : c.nextKey ≤ Text.wordBound) : c.pages.length < Text.wordBound := by
  rcases h.few with hfew | rfl
  · exact Nat.lt_of_lt_of_le hfew hkey
  · show 1 < Text.wordBound
    decide

end Contents

/-- Pages with their numbers, from the given one on. -/
def Sheet.numbered (n : SheetNumber) : List Sheet → List (SheetNumber × Sheet)
  | [] => []
  | page :: rest => (n, page) :: numbered (n + 1) rest

theorem Sheet.map_snd_numbered (n : SheetNumber) (pages : List Sheet) :
    (numbered n pages).map Prod.snd = pages := by
  induction pages generalizing n with
  | nil => rfl
  | cons page rest ih => rw [numbered, List.map_cons, ih]

theorem Sheet.flatMap_snd_numbered (n : SheetNumber) (pages : List Sheet) :
    (numbered n pages).flatMap Prod.snd = pages.flatten := by
  rw [List.flatMap_def, map_snd_numbered]

theorem Sheet.numbered_map (n : SheetNumber) (f : Sheet → Sheet) (pages : List Sheet) :
    numbered n (pages.map f) = (numbered n pages).map fun (n, page) => (n, f page) := by
  induction pages generalizing n with
  | nil => rfl
  | cons page rest ih => rw [List.map_cons, numbered, numbered, List.map_cons, ih]

/-! ## Contents in a file tree -/

namespace Table

/-- The directory of the table has the pages in one file each and the next key in another, and
nothing else. -/
structure Holds (t : Table) (files : FileTree) (c : Contents) : Prop where
  /-- The page at a position is encoded in the sheet of the next number. -/
  sheet : ∀ i page, c.pages[i]? = some page →
    files.get? (t.sheetPath (i + 1)) = some (.file (Sheet.encode t.columns page).toUTF8)
  /-- The next key stands in the key sequence. -/
  key : files.get? t.keyPath = some (.file (toString c.nextKey).toUTF8)
  /-- There is nothing else. -/
  only : ∀ name node, files.get? (t.dir.entry name) = some node →
    t.dir.entry name = t.keyPath ∨
      ∃ i, i < c.pages.length ∧ t.dir.entry name = t.sheetPath (i + 1)

section Questions

variable {t : Table} {files : FileTree} {c : Contents}

theorem Holds.directory (h : t.Holds files c) : files.get? t.dir = some .directory :=
  FileTree.get?_parent h.key

/-- A name that ends neither like a sheet nor like a key sequence is free. -/
theorem Holds.get?_eq_none {name : String} (h : t.Holds files c)
    (hsheet : name.toList.getLast? ≠ some 'v') (hkey : name.toList.getLast? ≠ some 'e') :
    files.get? (t.dir.entry name) = none := by
  cases hnode : files.get? (t.dir.entry name) with
  | none => rfl
  | some node =>
      rcases h.only name node hnode with heq | ⟨i, -, heq⟩
      · rw [keyPath, Path.entry_inj] at heq
        subst heq
        simp at hkey
      · rw [sheetPath, Path.entry_inj] at heq
        subst heq
        exact absurd (SheetNumber.fileName_getLast? _) hsheet

/-- If every number up to a bound has one entry, named after it, and no other entry has a number,
then the numbers of the entries are those up to the bound. -/
theorem ascending_filterMap_eq {entries : List (String × Node)}
    {number? : String × Node → Option Nat} {k : Nat}
    (hnodup : (entries.map Prod.fst).Nodup)
    (hnamed : ∀ e ∈ entries, ∀ n, number? e = some n →
      e.1 = SheetNumber.fileName n ∧ 1 ≤ n ∧ n ≤ k)
    (hall : ∀ n, 1 ≤ n → n ≤ k → ∃ e ∈ entries, number? e = some n) :
    SheetNumber.ascending (entries.filterMap number?) = List.range' 1 k := by
  apply SheetNumber.ascending_eq_of_perm
  · apply (List.perm_ext_iff_of_nodup ?_ List.nodup_range').2
    · intro n
      rw [List.mem_filterMap, List.mem_range'_1]
      constructor
      · rintro ⟨e, he, hn⟩
        obtain ⟨-, hpos, hle⟩ := hnamed e he n hn
        omega
      · intro hn
        exact hall n hn.1 (by omega)
    · rw [List.Nodup, List.pairwise_map] at hnodup
      rw [List.Nodup, List.pairwise_filterMap]
      refine hnodup.imp_of_mem ?_
      rintro a b ha hb hne m hm n hn rfl
      exact hne ((hnamed a ha m hm).1.trans (hnamed b hb m hn).1.symm)
  · exact List.pairwise_le_range'

/-- The sheets are numbered from one, without a gap. -/
theorem sheetNumbers_eq (h : t.Holds files c) (hlen : c.pages.length < Text.wordBound) :
    t.sheetNumbers files = .ok (List.range' 1 c.pages.length) := by
  obtain ⟨entries, hlist, hnodup, hmem⟩ := FileTree.exists_list h.directory
  rw [sheetNumbers, hlist]
  refine congrArg Except.ok (ascending_filterMap_eq hnodup ?_ ?_)
  · rintro ⟨name, node⟩ hentry n hn
    have hof : SheetNumber.ofFileName? name = some n := by
      cases node with
      | directory => cases hn
      | file contents => exact hn
    rcases h.only name node ((hmem name node).1 hentry) with heq | ⟨i, hi, heq⟩
    · rw [keyPath, Path.entry_inj] at heq
      have hlast := SheetNumber.getLast?_of_ofFileName? hof
      rw [heq] at hlast
      simp at hlast
    · rw [sheetPath, Path.entry_inj] at heq
      have hlt : i + 1 < Text.wordBound := Nat.lt_of_le_of_lt hi hlen
      rw [heq, SheetNumber.ofFileName?_fileName (Nat.succ_pos i) hlt] at hof
      cases hof
      exact ⟨heq, Nat.succ_pos i, hi⟩
  · intro n hpos hle
    obtain ⟨i, rfl⟩ : ∃ i, n = i + 1 := ⟨n - 1, by omega⟩
    have hi : i < c.pages.length := by omega
    have hlt : i + 1 < Text.wordBound := by omega
    have hfile := h.sheet i c.pages[i] (List.getElem?_eq_getElem hi)
    exact ⟨(SheetNumber.fileName (i + 1), _), (hmem _ _).2 hfile,
      SheetNumber.ofFileName?_fileName (Nat.succ_pos i) hlt⟩

theorem readSheet_eq (hp : t.Proper) (hv : c.Valid t.columns.length) (h : t.Holds files c)
    {i : Nat} {page : Sheet} (hpage : c.pages[i]? = some page) :
    t.readSheet (i + 1) files = .ok page := by
  have htext := FileTree.readText_of_get? (h.sheet i page hpage)
  have hdecode := Sheet.decode_encode hp.header (hv.fits page (List.mem_of_getElem? hpage))
  simp only [readSheet, htext, hdecode]

/-- The pages are read in their order. -/
theorem readSheets_eq (hp : t.Proper) (hv : c.Valid t.columns.length) (h : t.Holds files c)
    (done : List Sheet) {rest : List Sheet} (hpages : c.pages = done ++ rest) :
    t.readSheets files (List.range' (done.length + 1) rest.length)
      = .ok (Sheet.numbered (done.length + 1) rest) := by
  induction rest generalizing done with
  | nil => rfl
  | cons page rest ih =>
      have hpage : c.pages[done.length]? = some page := by simp [hpages]
      have hread := readSheet_eq hp hv h hpage
      have hrest := ih (done ++ [page]) (by simp [hpages])
      rw [List.length_append, List.length_singleton] at hrest
      rw [List.length_cons, List.range'_succ, readSheets, hread, hrest]
      rfl

theorem sheets_eq (hp : t.Proper) (hv : c.Valid t.columns.length) (h : t.Holds files c)
    (hlen : c.pages.length < Text.wordBound) :
    t.sheets files = .ok (Sheet.numbered 1 c.pages) := by
  rw [sheets, sheetNumbers_eq h hlen]
  exact readSheets_eq hp hv h [] rfl

/-- The rows are those of the pages one after the other. -/
theorem rows_eq (hp : t.Proper) (hv : c.Valid t.columns.length) (h : t.Holds files c)
    (hlen : c.pages.length < Text.wordBound) :
    t.rows files = .ok (c.records.map t.row) := by
  rw [rows, sheets_eq hp hv h hlen, Contents.records, List.map_flatten]
  show Except.ok _ = _
  rw [← Sheet.map_snd_numbered 1 c.pages, List.map_map, List.flatMap_def,
    Sheet.map_snd_numbered]
  rfl

theorem nextKey_eq (h : t.Holds files c) (hkey : c.nextKey < Text.wordBound) :
    t.nextKey files = .ok c.nextKey := by
  simp only [nextKey, FileTree.readText_of_get? h.key, Text.signedWord?_trim_toString hkey]

theorem firstWithRoom?_eq (hp : t.Proper) (hv : c.Valid t.columns.length) (h : t.Holds files c)
    (limit : Nat) (done : List Sheet) {rest : List Sheet} (hpages : c.pages = done ++ rest) :
    t.firstWithRoom? limit files (List.range' (done.length + 1) rest.length)
      = .ok ((rest.findIdx? (·.length < limit)).map fun i => done.length + i + 1) := by
  induction rest generalizing done with
  | nil => rfl
  | cons page rest ih =>
      have hpage : c.pages[done.length]? = some page := by simp [hpages]
      have hread := readSheet_eq hp hv h hpage
      have hrest := ih (done ++ [page]) (by simp [hpages])
      rw [List.length_append, List.length_singleton] at hrest
      rw [List.length_cons, List.range'_succ, firstWithRoom?, hread, List.findIdx?_cons]
      by_cases hroom : page.length < limit
      · simp [hroom, bind, Except.bind, pure, Except.pure]
      · simp only [bind, Except.bind, hroom, if_false, decide_false, Bool.false_eq_true]
        rw [hrest]
        cases rest.findIdx? (·.length < limit) with
        | none => rfl
        | some i => simp; omega

end Questions

end Table

end SheetStore
