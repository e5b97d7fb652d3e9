import Mathlib.Algebra.GroupWithZero.Nat
import SheetStore.Proofs.Table.Insertion

/-!
# What a conditional deletion writes

A conditional deletion reads all sheets before it writes any.  Then it goes from sheet to sheet: one
that *loses* a record is replaced by the records that remain (`Table.Loses`, `Table.remaining`), and
the others are left alone.  `Table.Rewritten` says what this makes of a file tree.

Each sheet is replaced as a whole or not at all, and where the sheet was read the only thing that
can stop its replacement is a directory in the place of the temporary sibling (`writeSheet_cases`).
So in any tree a deletion either rewrites all sheets, or those up to one whose sibling is in the way
(`deleteFrom_cases`).

Two of the sheets that are gone through may have one number, since several file names may stand for
it.  Then they have one file and were read alike (`Table.Consistent`), and the file is rewritten
twice with one text.
-/

namespace SheetStore

namespace Table

variable {t : Table} {selects : Row → Bool} {files after : FileTree} {n : SheetNumber}
  {sheet : Sheet} {rest sheets : List (SheetNumber × Sheet)}

/-! ## Records that go and records that stay -/

/-- Some record of the sheet is selected. -/
def Loses (t : Table) (selects : Row → Bool) (sheet : Sheet) : Prop :=
  ∃ r ∈ sheet, selects (t.row r) = true

/-- The records of the sheet that are not selected, in their order. -/
def remaining (t : Table) (selects : Row → Bool) (sheet : Sheet) : Sheet :=
  sheet.filter fun r => !selects (t.row r)

theorem length_remaining_ne_iff :
    (t.remaining selects sheet).length ≠ sheet.length ↔ t.Loses selects sheet := by
  rw [remaining, ne_eq, List.length_filter_eq_length_iff, Loses]
  simp

/-- The number of selected records is taken from the lengths. -/
theorem length_sub_length_remaining (t : Table) (selects : Row → Bool) (sheet : Sheet) :
    sheet.length - (t.remaining selects sheet).length = sheet.countP fun r => selects (t.row r) :=
  length_sub_length_filter (fun r => selects (t.row r)) sheet

/-- A sheet that loses records is written, and then come the others. -/
theorem deleteFrom_of_loses (h : t.Loses selects sheet) (n : SheetNumber)
    (rest : List (SheetNumber × Sheet)) : t.deleteFrom selects ((n, sheet) :: rest) = (do
      t.writeSheet n (t.remaining selects sheet)
      return (sheet.countP fun r => selects (t.row r)) + (← t.deleteFrom selects rest)) := by
  rw [← length_sub_length_remaining]
  exact if_pos (length_remaining_ne_iff.2 h)

/-- A sheet that loses no record is passed over. -/
theorem deleteFrom_of_not_loses (h : ¬ t.Loses selects sheet) (n : SheetNumber)
    (rest : List (SheetNumber × Sheet)) : t.deleteFrom selects ((n, sheet) :: rest) = (do
      return (sheet.countP fun r => selects (t.row r)) + (← t.deleteFrom selects rest)) := by
  rw [← length_sub_length_remaining]
  exact if_neg (mt length_remaining_ne_iff.1 h)

/-- A deletion that succeeds counts the selected records of every sheet that it goes through. -/
theorem count_of_deleteFrom {count : Nat}
    (h : t.deleteFrom selects sheets files = .ok count after) :
    count = (sheets.map fun entry => entry.2.countP fun r => selects (t.row r)).sum := by
  induction sheets generalizing files count with
  | nil =>
      cases h
      rfl
  | cons entry rest ih =>
      obtain ⟨n, sheet⟩ := entry
      obtain ⟨left, hrest⟩ : ∃ left, (do
          return (sheet.countP fun r => selects (t.row r)) + (← t.deleteFrom selects rest) :
            Storage Nat) left = .ok count after := by
        by_cases hloses : t.Loses selects sheet
        · rw [deleteFrom_of_loses hloses] at h
          obtain ⟨_, left, -, hrest⟩ := of_bind_eq_ok h
          exact ⟨left, hrest⟩
        · rw [deleteFrom_of_not_loses hloses] at h
          exact ⟨files, h⟩
      obtain ⟨later, last, hlater, hpure⟩ := of_bind_eq_ok hrest
      cases hpure
      rw [ih hlater, List.map_cons, List.sum_cons]

/-! ## One sheet -/

/-- A sheet whose file is there is replaced as a whole, unless a directory stands in the place of
its temporary sibling.  Then nothing changes. -/
theorem writeSheet_cases (hdir : files.get? t.dir = some .directory)
    (hfile : t.HasFile files n.fileName) (sheet : Sheet) :
    (∃ after, t.writeSheet n sheet files = .ok () after ∧ ∀ q, after.get? q =
      if q = t.sheetPath n then some (.file (sheet.encode t.columns).toUTF8)
      else if q = Storage.temporary (t.sheetPath n) then none
      else files.get? q) ∨
    files.get? (Storage.temporary (t.sheetPath n)) = some .directory ∧
      t.writeSheet n sheet files
        = .error (.storage (Storage.temporary (t.sheetPath n)) .isADirectory) files := by
  by_cases htemp : files.get? (Storage.temporary (t.sheetPath n)) = some .directory
  · exact .inr ⟨htemp, Storage.replaceText_of_directory htemp⟩
  · obtain ⟨contents, hcontents⟩ := hfile
    have hfree : files.get? (t.sheetPath n) ≠ some .directory := by
      rw [sheetPath, hcontents]
      simp
    exact .inl (Storage.exists_replaceText (sheet.encode t.columns) hdir hfree htemp)

/-! ## All sheets -/

/-- Sheets of one number are one sheet. -/
def Consistent (sheets : List (SheetNumber × Sheet)) : Prop :=
  ∀ entry ∈ sheets, ∀ other ∈ sheets, entry.1 = other.1 → entry = other

theorem Consistent.tail {entry : SheetNumber × Sheet} (h : Consistent (entry :: rest)) :
    Consistent rest :=
  fun e he other hother => h e (List.mem_cons_of_mem _ he) other (List.mem_cons_of_mem _ hother)

theorem Consistent.of_append {done : List (SheetNumber × Sheet)} (h : Consistent (done ++ rest)) :
    Consistent done :=
  fun e he other hother =>
    h e (List.mem_append_left _ he) other (List.mem_append_left _ hother)

/-- What rewriting the sheets makes of a file tree. -/
structure Rewritten (t : Table) (selects : Row → Bool) (sheets : List (SheetNumber × Sheet))
    (files after : FileTree) : Prop where
  /-- A sheet that loses records holds those that remain. -/
  replaced : ∀ entry ∈ sheets, t.Loses selects entry.2 → after.get? (t.sheetPath entry.1)
    = some (.file (Sheet.encode t.columns (t.remaining selects entry.2)).toUTF8)
  /-- Its temporary sibling is gone. -/
  moved : ∀ entry ∈ sheets, t.Loses selects entry.2 →
    after.get? (Storage.temporary (t.sheetPath entry.1)) = none
  /-- Nothing else has changed. -/
  same : ∀ p, (∀ entry ∈ sheets, t.Loses selects entry.2 →
      p ≠ t.sheetPath entry.1 ∧ p ≠ Storage.temporary (t.sheetPath entry.1)) →
    after.get? p = files.get? p

namespace Rewritten

theorem nil (t : Table) (selects : Row → Bool) (files : FileTree) :
    t.Rewritten selects [] files files where
  replaced := List.forall_mem_nil _
  moved := List.forall_mem_nil _
  same _ _ := rfl

/-- A sheet that loses nothing may come first. -/
theorem cons_of_not_loses (h : t.Rewritten selects rest files after)
    (hkeeps : ¬ t.Loses selects sheet) (n : SheetNumber) :
    t.Rewritten selects ((n, sheet) :: rest) files after where
  replaced := List.forall_mem_cons.2 ⟨fun hloses => absurd hloses hkeeps, h.replaced⟩
  moved := List.forall_mem_cons.2 ⟨fun hloses => absurd hloses hkeeps, h.moved⟩
  same p hp := h.same p (List.forall_mem_cons.1 hp).2

/-- A sheet that is replaced may come first. -/
theorem cons_of_loses {left : FileTree} (h : t.Rewritten selects rest left after)
    (hconsistent : Consistent ((n, sheet) :: rest)) (hloses : t.Loses selects sheet)
    (hview : ∀ q, left.get? q =
      if q = t.sheetPath n then
        some (.file (Sheet.encode t.columns (t.remaining selects sheet)).toUTF8)
      else if q = Storage.temporary (t.sheetPath n) then none
      else files.get? q) :
    t.Rewritten selects ((n, sheet) :: rest) files after := by
  have hfirst : after.get? (t.sheetPath n)
        = some (.file (Sheet.encode t.columns (t.remaining selects sheet)).toUTF8) ∧
      after.get? (Storage.temporary (t.sheetPath n)) = none := by
    by_cases hagain : (n, sheet) ∈ rest
    · -- the sheet comes again and is replaced by the same text
      exact ⟨h.replaced (n, sheet) hagain hloses, h.moved (n, sheet) hagain hloses⟩
    · have hother : ∀ entry ∈ rest, entry.1 ≠ n := by
        intro entry hentry heq
        have hequal := hconsistent entry (List.mem_cons_of_mem _ hentry) _ List.mem_cons_self heq
        exact hagain (hequal ▸ hentry)
      have hsheet : after.get? (t.sheetPath n) = left.get? (t.sheetPath n) :=
        h.same _ fun entry hentry _ =>
          ⟨fun heq => hother entry hentry (t.sheetPath_inj.1 heq).symm,
            sheetPath_ne_temporary t n _⟩
      have htemp : after.get? (Storage.temporary (t.sheetPath n))
          = left.get? (Storage.temporary (t.sheetPath n)) :=
        h.same _ fun entry hentry _ =>
          ⟨(sheetPath_ne_temporary t entry.1 _).symm, fun heq =>
            hother entry hentry (SheetNumber.fileName_inj.1 (Storage.temporary_inj.1 heq)).symm⟩
      have hne : Storage.temporary (t.sheetPath n) ≠ t.sheetPath n :=
        (sheetPath_ne_temporary t n _).symm
      rw [hsheet, htemp, hview, hview, if_pos rfl, if_neg hne, if_pos rfl]
      exact ⟨rfl, rfl⟩
  constructor
  · exact List.forall_mem_cons.2 ⟨fun _ => hfirst.1, h.replaced⟩
  · exact List.forall_mem_cons.2 ⟨fun _ => hfirst.2, h.moved⟩
  · intro p hp
    rw [List.forall_mem_cons] at hp
    obtain ⟨hsheet, htemp⟩ := hp.1 hloses
    rw [h.same p hp.2, hview, if_neg hsheet, if_neg htemp]

/-- The directory of the table stays. -/
theorem directory (h : t.Rewritten selects sheets files after) :
    after.get? t.dir = files.get? t.dir :=
  h.same _ fun _ _ _ => ⟨(Path.entry_ne _ _).symm, (Path.entry_ne _ _).symm⟩

/-- The key sequence stays. -/
theorem key (h : t.Rewritten selects sheets files after) :
    after.get? t.keyPath = files.get? t.keyPath :=
  h.same _ fun entry _ _ => ⟨keyPath_ne_sheetPath t entry.1, keyPath_ne_temporary t _⟩

/-- A sheet stays if none of its number loses records. -/
theorem sheet_of_not_loses (h : t.Rewritten selects sheets files after)
    (hkeeps : ∀ entry ∈ sheets, entry.1 = n → ¬ t.Loses selects entry.2) :
    after.get? (t.sheetPath n) = files.get? (t.sheetPath n) :=
  h.same _ fun entry hentry hloses =>
    ⟨fun heq => hkeeps entry hentry (t.sheetPath_inj.1 heq).symm hloses,
      sheetPath_ne_temporary t n _⟩

end Rewritten

/-- In any tree a deletion rewrites all sheets that it goes through, or those before one that has a
directory in the place of its temporary sibling. -/
theorem deleteFrom_cases (selects : Row → Bool) (hdir : files.get? t.dir = some .directory)
    (hfiles : ∀ entry ∈ sheets, t.HasFile files entry.1.fileName)
    (hconsistent : Consistent sheets) :
    (∃ count after, t.deleteFrom selects sheets files = .ok count after ∧
      t.Rewritten selects sheets files after) ∨
    ∃ done n sheet rest after, sheets = done ++ (n, sheet) :: rest ∧ t.Loses selects sheet ∧
      t.deleteFrom selects sheets files
        = .error (.storage (Storage.temporary (t.sheetPath n)) .isADirectory) after ∧
      t.Rewritten selects done files after ∧
      after.get? (Storage.temporary (t.sheetPath n)) = some .directory := by
  induction sheets generalizing files with
  | nil => exact .inl ⟨0, files, rfl, .nil t selects files⟩
  | cons entry rest ih =>
      obtain ⟨n, sheet⟩ := entry
      rw [List.forall_mem_cons] at hfiles
      by_cases hloses : t.Loses selects sheet
      · rw [deleteFrom_of_loses hloses]
        rcases writeSheet_cases hdir hfiles.1 (t.remaining selects sheet) with
          ⟨left, hwrite, hview⟩ | ⟨htemp, hfails⟩
        · have hdir' : left.get? t.dir = some .directory := by
            have hne : t.dir ≠ t.sheetPath n := (Path.entry_ne _ _).symm
            have hne' : t.dir ≠ Storage.temporary (t.sheetPath n) := (Path.entry_ne _ _).symm
            rw [hview, if_neg hne, if_neg hne', hdir]
          have hfiles' : ∀ entry ∈ rest, t.HasFile left entry.1.fileName := by
            intro entry hentry
            have hne : t.sheetPath entry.1 ≠ Storage.temporary (t.sheetPath n) :=
              sheetPath_ne_temporary t entry.1 _
            have hsheet := hview (t.sheetPath entry.1)
            rw [if_neg hne] at hsheet
            by_cases heq : t.sheetPath entry.1 = t.sheetPath n
            · exact ⟨_, hsheet.trans (if_pos heq)⟩
            · obtain ⟨contents, hcontents⟩ := hfiles.2 entry hentry
              exact ⟨contents, (hsheet.trans (if_neg heq)).trans hcontents⟩
          rw [bind_of_ok hwrite]
          rcases ih hdir' hfiles' hconsistent.tail with
            ⟨count, after, hrun, hrewritten⟩ |
            ⟨done, m, other, later, after, rfl, hother, hrun, hrewritten, htemp⟩
          · refine .inl ⟨_, after, bind_of_ok hrun, ?_⟩
            exact hrewritten.cons_of_loses hconsistent hloses hview
          · have hdone : Consistent ((n, sheet) :: done) := hconsistent.of_append
            exact .inr ⟨(n, sheet) :: done, m, other, later, after, rfl, hother,
              bind_of_error hrun, hrewritten.cons_of_loses hdone hloses hview, htemp⟩
        · exact .inr ⟨[], n, sheet, rest, files, rfl, hloses, bind_of_error hfails,
            .nil t selects files, htemp⟩
      · rw [deleteFrom_of_not_loses hloses]
        rcases ih hdir hfiles.2 hconsistent.tail with
          ⟨count, after, hrun, hrewritten⟩ |
          ⟨done, m, other, later, after, rfl, hother, hrun, hrewritten, htemp⟩
        · exact .inl ⟨_, after, bind_of_ok hrun, hrewritten.cons_of_not_loses hloses n⟩
        · exact .inr ⟨(n, sheet) :: done, m, other, later, after, rfl, hother,
            bind_of_error hrun, hrewritten.cons_of_not_loses hloses n, htemp⟩

end Table

end SheetStore
