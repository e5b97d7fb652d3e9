import SheetStore.Proofs.Table.Insertion
import SheetStore.Proofs.Files.Locality

/-!
# Tables work in their directories

Every question about a table depends on what stands at its directory and below it, whatever that is,
and if nothing stands there, on why not.  Every change of a table is made of such questions and of
file operations in the directory, so it is local to it.

The two operations on the directory itself are those of clearing a table.  A table whose directory
is missing gets a new one, with the directories around it.
-/

namespace SheetStore

open FileTree Storage

namespace Table

variable {t : Table} {dir : Path} {names : List String} {s s' : FileTree}

/-! ## Questions -/

section Questions

variable (ht : dir.Inside names t.dir) (h : AgreeOn dir (dir.Inside names) s s')

include ht h

theorem sheetNumbers_eq_of_agree : t.sheetNumbers s' = t.sheetNumbers s := by
  have hdir := h.same _ ht
  by_cases hdirectory : s.get? t.dir = some .directory
  · refine sheetNumbers_congr hdirectory (hdir.trans hdirectory) fun name _ => ?_
    rw [HasFile, HasFile, h.same _ (ht.entry name)]
  · -- nothing can be listed
    have hlist : s'.list t.dir = s.list t.dir := by
      rw [list, list, hdir, h.missing_of_inside ht]
      split
      · exact absurd ‹_› hdirectory
      · rfl
      · rfl
    rw [sheetNumbers, sheetNumbers, hlist]

theorem readSheet_eq_of_agree (n : SheetNumber) : t.readSheet n s' = t.readSheet n s := by
  have htext : s'.readText (t.sheetPath n) = s.readText (t.sheetPath n) :=
    h.readText_eq (ht.entry _)
  rw [readSheet, readSheet, htext]

theorem nextKey_eq_of_agree : t.nextKey s' = t.nextKey s := by
  have htext : s'.readText t.keyPath = s.readText t.keyPath := h.readText_eq (ht.entry _)
  rw [nextKey, nextKey, htext]

theorem sheets_eq_of_agree : t.sheets s' = t.sheets s := by
  have hsheets : ∀ numbers, t.readSheets s' numbers = t.readSheets s numbers := fun _ =>
    readSheets_congr fun n _ => readSheet_eq_of_agree ht h n
  rw [sheets, sheets, sheetNumbers_eq_of_agree ht h]
  simp only [hsheets]

theorem rows_eq_of_agree : t.rows s' = t.rows s := by
  rw [rows, rows, sheets_eq_of_agree ht h]

theorem firstWithRoom?_eq_of_agree (limit : Nat) (numbers : List SheetNumber) :
    t.firstWithRoom? limit s' numbers = t.firstWithRoom? limit s numbers := by
  induction numbers with
  | nil => rfl
  | cons n rest ih => rw [firstWithRoom?, firstWithRoom?, readSheet_eq_of_agree ht h, ih]

end Questions

/-! ## Changes -/

section Changes

variable (ht : dir.Inside names t.dir)

include ht

theorem putRecord_local (numbers : List SheetNumber) (record : Record)
    (found : Option SheetNumber) : Local dir names (t.putRecord numbers record found) := by
  cases found with
  | some n => exact .append ht _ _ _
  | none => exact .replaceText ht _ _

theorem insert_local (limit : Nat) (values : List String) :
    Local dir names (t.insert limit values) := by
  rw [insert_eq]
  exact (Local.reading fun _ _ h => nextKey_eq_of_agree ht h).bind fun key =>
    (Local.reading fun _ _ h => sheetNumbers_eq_of_agree ht h).bind fun numbers =>
    (Local.reading fun _ _ h => firstWithRoom?_eq_of_agree ht h limit numbers).bind fun found =>
    (putRecord_local ht numbers _ found).bind fun _ =>
    (Local.replaceText ht _ _).bind fun _ => .pure key

theorem deleteFrom_local (selects : Row → Bool) (sheets : List (SheetNumber × Sheet)) :
    Local dir names (t.deleteFrom selects sheets) := by
  induction sheets with
  | nil => exact .pure 0
  | cons entry rest ih =>
      obtain ⟨n, sheet⟩ := entry
      rw [deleteFrom]
      split
      · exact (Local.replaceText ht _ _).bind fun _ => ih.bind fun _ => .pure _
      · exact ih.bind fun _ => .pure _

theorem deleteWhere_local (selects : Row → Bool) : Local dir names (t.deleteWhere selects) :=
  (Local.reading fun _ _ h => sheets_eq_of_agree ht h).bind (deleteFrom_local ht selects)

end Changes

/-- A table is emptied in its directory, which may be missing. -/
theorem clear_local {name : String} (hdir : t.dir = dir.entry name) (hname : name ∈ names) :
    Local dir names t.clear := by
  have ht : dir.Inside names t.dir := hdir ▸ Path.inside_of_mem hname
  have hremove : Local dir names _ := .removeDirAll hname t.dir
  have hcreate : Local dir names _ := .createDirAll hname t.dir
  rw [← hdir] at hremove hcreate
  exact hremove.bind fun _ => hcreate.bind fun _ =>
    (Local.ensureText ht _ _).bind fun _ => .ensureText ht _ _

end Table

end SheetStore
