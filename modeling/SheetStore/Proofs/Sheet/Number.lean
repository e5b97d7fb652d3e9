import Mathlib.Data.List.Sort
import SheetStore.SheetNumber
import SheetStore.Proofs.Text.Numeral

/-!
# Sheet numbers and file names

The name of the file of a sheet gives the number of the sheet back (`ofFileName?_fileName`), so the
files of two sheets have different names.  The last letter alone tells the files of sheets from the
others that a database makes (`fileName_getLast?`, `getLast?_of_ofFileName?`).  `ascending` sorts: it
turns any arrangement of an ascending list into that list (`ascending_eq_of_perm`).

The name with zeros in front of the number gives the number as well, and no other name does
(`ofFileName?_eq_some_iff`).
-/

namespace SheetStore.SheetNumber

/-! ## File names -/

theorem fileName_toList (n : SheetNumber) :
    n.fileName.toList = (toString (n : Nat)).toList ++ ['.', 'c', 's', 'v'] := by
  rw [fileName, String.toList_append]
  rfl

theorem ofFileName?_fileName_eq (n : SheetNumber) :
    ofFileName? n.fileName = (Text.word? (toString (n : Nat)).toList).filter (0 < ·) := by
  have hlen : n.fileName.toList.length - 4 = (toString (n : Nat)).toList.length := by
    rw [fileName_toList, List.length_append]
    exact Nat.add_sub_cancel ..
  have hdrop : n.fileName.toList.drop (n.fileName.toList.length - 4) = ['.', 'c', 's', 'v'] := by
    rw [hlen, fileName_toList, List.drop_left]
  have htake : n.fileName.toList.take (n.fileName.toList.length - 4)
      = (toString (n : Nat)).toList := by
    rw [hlen, fileName_toList, List.take_left]
  simp only [ofFileName?, hdrop, if_true, htake]

/-- The name of the file of a sheet gives its number. -/
theorem ofFileName?_fileName {n : SheetNumber} (hpos : 0 < n) (hlt : n < Text.wordBound) :
    ofFileName? n.fileName = some n := by
  rw [ofFileName?_fileName_eq, Text.word?_toString hlt, Option.filter_some,
    if_pos (decide_eq_true hpos)]

theorem fileName_getLast? (n : SheetNumber) : n.fileName.toList.getLast? = some 'v' := by
  rw [fileName_toList, List.getLast?_append]
  rfl

theorem getLast?_of_ofFileName? {name : String} {n : SheetNumber}
    (h : ofFileName? name = some n) : name.toList.getLast? = some 'v' := by
  simp only [ofFileName?] at h
  split at h
  · rename_i hdrop
    rw [← List.take_append_drop (name.toList.length - 4) name.toList, hdrop,
      List.getLast?_append]
    rfl
  · cases h

/-- Files of different sheets have different names. -/
theorem fileName_inj {m n : SheetNumber} : m.fileName = n.fileName ↔ m = n := by
  constructor
  · intro h
    have hlist := congrArg String.toList h
    rw [fileName_toList, fileName_toList] at hlist
    have hvalue := congrArg (Text.digitsValue 0) (List.append_cancel_right hlist)
    rwa [Text.digitsValue_toString, Text.digitsValue_toString] at hvalue
  · rintro rfl
    rfl

/-! ## Zeros in front of a number -/

/-- The name of the file of a sheet with zeros in front of the number. -/
def paddedName (zeros : Nat) (n : SheetNumber) : String :=
  String.ofList (List.replicate zeros '0') ++ n.fileName

theorem paddedName_zero (n : SheetNumber) : paddedName 0 n = n.fileName := String.empty_append

theorem toList_paddedName (zeros : Nat) (n : SheetNumber) : (paddedName zeros n).toList
    = List.replicate zeros '0' ++ (toString (n : Nat)).toList ++ ['.', 'c', 's', 'v'] := by
  rw [paddedName, String.toList_append, String.toList_ofList, fileName_toList, List.append_assoc]

theorem paddedName_injective (n : SheetNumber) : Function.Injective (paddedName · n) := by
  intro zeros others h
  have hlen := congrArg (List.length ∘ String.toList) h
  simpa [toList_paddedName] using hlen

/-- A number is read from its name with zeros in front, and from no other name. -/
theorem ofFileName?_eq_some_iff {name : String} {n : SheetNumber} :
    ofFileName? name = some n ↔
      0 < n ∧ n < Text.wordBound ∧ ∃ zeros, name = paddedName zeros n := by
  obtain ⟨digits, hdigits⟩ : ∃ s, s = name.toList.take (name.toList.length - 4) := ⟨_, rfl⟩
  have hname : ∀ zeros, name = paddedName zeros n ↔
      name.toList.drop (name.toList.length - 4) = ['.', 'c', 's', 'v'] ∧
        digits = List.replicate zeros '0' ++ (toString (n : Nat)).toList := by
    intro zeros
    rw [← String.toList_inj, toList_paddedName, hdigits]
    constructor
    · intro h
      have hlen : name.toList.length - 4
          = (List.replicate zeros '0' ++ (toString (n : Nat)).toList).length := by
        rw [h, List.length_append]
        exact Nat.add_sub_cancel ..
      rw [hlen, h]
      exact ⟨List.drop_left, List.take_left⟩
    · rintro ⟨hdrop, htake⟩
      rw [← List.take_append_drop (name.toList.length - 4) name.toList, hdrop, htake]
  simp only [ofFileName?, ← hdigits, hname]
  split
  · rename_i hdrop
    rw [Option.filter_eq_some_iff, decide_eq_true_iff, and_comm]
    refine and_congr_right fun hpos => ?_
    rw [Text.word?_eq_some_iff hpos]
    simp only [hdrop, true_and]
  · rename_i hdrop
    simp [hdrop]

/-! ## Sorting -/

theorem ascending_eq_insertionSort (numbers : List SheetNumber) :
    ascending numbers = numbers.insertionSort (· ≤ ·) := by
  have hinsert : ∀ (n : SheetNumber) (l : List SheetNumber),
      insertAscending n l = l.orderedInsert (· ≤ ·) n := by
    intro n l
    induction l with
    | nil => rfl
    | cons m rest ih => simp only [insertAscending, List.orderedInsert_cons, ih]
  induction numbers with
  | nil => rfl
  | cons n rest ih =>
      rw [ascending, List.foldr_cons, hinsert, List.insertionSort_cons, ← ih, ascending]

theorem ascending_perm (numbers : List SheetNumber) : (ascending numbers).Perm numbers := by
  rw [ascending_eq_insertionSort]
  exact List.perm_insertionSort _ numbers

theorem pairwise_ascending (numbers : List SheetNumber) :
    (ascending numbers).Pairwise (· ≤ ·) := by
  rw [ascending_eq_insertionSort]
  exact List.pairwise_insertionSort _ numbers

theorem mem_ascending {numbers : List SheetNumber} {n : SheetNumber} :
    n ∈ ascending numbers ↔ n ∈ numbers := (ascending_perm numbers).mem_iff

/-- Any arrangement of an ascending list is sorted to that list. -/
theorem ascending_eq_of_perm {numbers sorted : List SheetNumber} (hperm : numbers.Perm sorted)
    (hsorted : sorted.Pairwise (· ≤ ·)) : ascending numbers = sorted :=
  ((ascending_perm numbers).trans hperm).eq_of_pairwise' (pairwise_ascending numbers) hsorted

/-- The order in which numbers are given does not matter. -/
theorem ascending_congr {numbers others : List SheetNumber} (hperm : numbers.Perm others) :
    ascending numbers = ascending others :=
  ascending_eq_of_perm (hperm.trans (ascending_perm others).symm) (pairwise_ascending others)

end SheetStore.SheetNumber
