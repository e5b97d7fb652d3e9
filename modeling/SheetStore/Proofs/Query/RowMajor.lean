import Mathlib.Algebra.BigOperators.Group.List.Basic
import Mathlib.Data.List.Forall2
import SheetStore.Proofs.Query.Tuples

/-!
# Where a row stands in a product

The number of a row in a product has one digit for each list of rows, which is below the length of
the list and chooses one of its rows.  The digit of the last list runs fastest, and the weight of a
digit is the number of choices from the lists after it (`MixedRadix.value`).  The row with a number
merges the rows that its digits choose, so under every name it has the value of the last chosen row
that binds the name (`product_rowMajor`).

All this is about the product formed from the right (`product_eq_foldr`), where the row with the
number `i` merges row `i / n` of the first list with row `i % n` of the product of the others, which
has the length `n` (`getElem?_pairs`).  Forming it from the left gives the same, because merging is
associative.
-/

namespace SheetStore

/-! ## Digits -/

namespace MixedRadix

/-- The digits of a number, one for each size.  The last one runs fastest. -/
def digits : List Nat → Nat → List Nat
  | [], _ => []
  | _ :: sizes, i => i / sizes.prod :: digits sizes (i % sizes.prod)

/-- The number with these digits.  A digit counts as often as there are digits after it. -/
def value : List Nat → List Nat → Nat
  | _ :: sizes, d :: ds => d * sizes.prod + value sizes ds
  | _, _ => 0

variable {sizes : List Nat} {n i : Nat}

theorem prod_pos_of_lt (h : i < n * sizes.prod) : 0 < sizes.prod :=
  Nat.pos_of_ne_zero fun hzero => by simp [hzero] at h

/-- Each digit is below its size. -/
theorem digits_lt (h : i < sizes.prod) : List.Forall₂ (· < ·) (digits sizes i) sizes := by
  induction sizes generalizing i with
  | nil => exact .nil
  | cons n sizes ih =>
      rw [List.prod_cons] at h
      have hpos := prod_pos_of_lt h
      exact .cons ((Nat.div_lt_iff_lt_mul hpos).2 h) (ih (Nat.mod_lt i hpos))

/-- A number that is small enough is the number with its digits. -/
theorem value_digits (h : i < sizes.prod) : value sizes (digits sizes i) = i := by
  induction sizes generalizing i with
  | nil => exact (Nat.lt_one_iff.1 h).symm
  | cons n sizes ih =>
      rw [List.prod_cons] at h
      rw [digits, value, ih (Nat.mod_lt i (prod_pos_of_lt h)), Nat.div_add_mod']

end MixedRadix

open MixedRadix (digits value digits_lt value_digits prod_pos_of_lt)

/-! ## Products of two lists -/

variable {sets : List (List Row)} {i : Nat}

theorem length_pairs (left right : List Row) :
    (pairs left right).length = left.length * right.length := by
  simp [pairs]

/-- The row with a number in the product of two lists. -/
theorem getElem?_pairs (left right : List Row) (i : Nat) :
    (pairs left right)[i]? = left[i / right.length]?.bind fun l =>
      right[i % right.length]?.map l.merge := by
  rcases Nat.eq_zero_or_pos right.length with hzero | hpos
  · rw [List.length_eq_zero_iff] at hzero
    simp [pairs, hzero]
  induction left generalizing i with
  | nil => rfl
  | cons l rest ih =>
      have hcons : pairs (l :: rest) right = right.map l.merge ++ pairs rest right := rfl
      rw [hcons, List.getElem?_append, List.length_map]
      split
      · rename_i hlt
        rw [Nat.div_eq_of_lt hlt, Nat.mod_eq_of_lt hlt, List.getElem?_map]
        rfl
      · -- the row belongs to a later row of the first list
        rename_i hge
        obtain ⟨j, rfl⟩ := Nat.exists_eq_add_of_le (Nat.le_of_not_lt hge)
        rw [Nat.add_sub_cancel_left, ih, Nat.add_div_left j hpos, Nat.add_mod_left,
          List.getElem?_cons_succ]

/-! ## Products of several lists -/

/-- How many rows each of the lists has. -/
def lengths (sets : List (List Row)) : List Nat := sets.map List.length

theorem lengths_cons (set : List Row) (rest : List (List Row)) :
    lengths (set :: rest) = set.length :: lengths rest := rfl

theorem length_foldr_pairs (sets : List (List Row)) :
    (sets.foldr pairs [⟨[]⟩]).length = (lengths sets).prod := by
  induction sets with
  | nil => rfl
  | cons set rest ih => rw [List.foldr_cons, length_pairs, ih, lengths_cons, List.prod_cons]

/-- What the digits choose from the lists. -/
def chosen (sets : List (List Row)) (ds : List Nat) : List (Option Row) :=
  List.zipWith (fun set d => set[d]?) sets ds

/-- The rows that the digits of a number choose, and the row with the number. -/
theorem exists_getElem?_foldr_pairs (h : i < (lengths sets).prod) :
    ∃ rows : List Row, chosen sets (digits (lengths sets) i) = rows.map some ∧
      (sets.foldr pairs [⟨[]⟩])[i]? = some (rows.foldr Row.merge ⟨[]⟩) := by
  induction sets generalizing i with
  | nil =>
      obtain rfl := Nat.lt_one_iff.1 h
      exact ⟨[], rfl, rfl⟩
  | cons set rest ih =>
      rw [lengths_cons, List.prod_cons] at h
      have hpos := prod_pos_of_lt h
      have hfirst : i / (lengths rest).prod < set.length := (Nat.div_lt_iff_lt_mul hpos).2 h
      obtain ⟨rows, hrows, hrow⟩ := ih (Nat.mod_lt i hpos)
      refine ⟨set[i / (lengths rest).prod] :: rows, ?_, ?_⟩
      · rw [chosen] at hrows ⊢
        rw [lengths_cons, digits, List.zipWith_cons_cons, hrows, List.map_cons,
          List.getElem?_eq_getElem hfirst]
      · rw [List.foldr_cons, getElem?_pairs, length_foldr_pairs, hrow,
          List.getElem?_eq_getElem hfirst]
        rfl

/-- Merged rows have under each name the value of the last of them that binds it. -/
theorem get?_foldr_merge (rows : List Row) (name : String) :
    (rows.foldr Row.merge ⟨[]⟩).get? name = rows.reverse.findSome? (·.get? name) := by
  induction rows with
  | nil => rfl
  | cons row rest ih =>
      rw [List.foldr_cons, Row.get?_merge, ih, List.reverse_cons, List.findSome?_append,
        List.findSome?_singleton]

/-- The row without bindings is neutral. -/
theorem empty_pairs (a : List Row) : pairs [⟨[]⟩] a = a := by
  have hid : (Row.mk []).merge = id := funext fun r => by simp [Row.merge]
  rw [pairs, List.flatMap_singleton, hid, List.map_id]

/-- The product of the lists of two families is the product of their products. -/
theorem product_append {others : List (List Row)} (hne : sets ≠ []) (hothers : others ≠ []) :
    product (sets ++ others) = pairs (product sets) (product others) := by
  rw [product_eq_foldr (List.append_ne_nil_of_left_ne_nil hne others), product_eq_foldr hne,
    product_eq_foldr hothers, List.foldr_append]
  clear hne hothers
  induction sets with
  | nil => exact (empty_pairs _).symm
  | cons set rest ih => rw [List.foldr_cons, List.foldr_cons, ih, pairs_assoc]

/-- The product of lists has as many rows as there are choices of a row from each, the row with a
number merges the rows that the digits of the number choose, the last of them on top, and the lists
may be grouped in any way. -/
theorem product_rowMajor (hne : sets ≠ []) :
    (product sets).length = (lengths sets).prod ∧
      (∀ i < (lengths sets).prod,
        List.Forall₂ (· < ·) (digits (lengths sets) i) (lengths sets) ∧
          value (lengths sets) (digits (lengths sets) i) = i ∧
          ∃ (rows : List Row) (row : Row), chosen sets (digits (lengths sets) i) = rows.map some ∧
            (product sets)[i]? = some row ∧
            ∀ name, row.get? name = rows.reverse.findSome? (·.get? name)) ∧
      (∀ a b c : List Row, pairs (pairs a b) c = pairs a (pairs b c)) ∧
      ∀ others, others ≠ [] → product (sets ++ others) = pairs (product sets) (product others) := by
  refine ⟨?_, fun i hi => ⟨digits_lt hi, value_digits hi, ?_⟩, pairs_assoc,
    fun others => product_append hne⟩
  · rw [product_eq_foldr hne, length_foldr_pairs]
  · obtain ⟨rows, hrows, hrow⟩ := exists_getElem?_foldr_pairs hi
    rw [product_eq_foldr hne]
    exact ⟨rows, _, hrows, hrow, get?_foldr_merge rows⟩

/-- The last row of a product of three lists, of which the last two bind one name, and the product
with one more list that is empty. -/
theorem sample_product_rowMajor :
    let beer := fun key => Row.mk [("beer.key", key)]
    let style := fun key name => Row.mk [("style.key", key), ("name", name)]
    let brewer := fun name => Row.mk [("name", name)]
    let sets := [[beer "1"], [style "1" "Ale", style "2" "Stout"], [brewer "Moortgat", ⟨[]⟩]]
    (product sets).length = 4 ∧ digits [1, 2, 2] 3 = [0, 1, 1] ∧
      (∃ row, (product sets)[3]? = some row ∧
        ∀ name, row.get? name = [⟨[]⟩, style "2" "Stout", beer "1"].findSome? (·.get? name)) ∧
      product (sets ++ [[]]) = pairs (product sets) (product [[]]) := by
  intro beer style brewer sets
  obtain ⟨hlength, hrows, -, happend⟩ := @product_rowMajor sets (List.cons_ne_nil _ _)
  obtain ⟨-, -, rows, row, hchosen, hrow, hget⟩ := hrows 3 (by decide)
  have hthree : rows.map some = [beer "1", style "2" "Stout", ⟨[]⟩].map some :=
    hchosen.symm.trans (by decide)
  rw [List.map_injective_iff.2 (Option.some_injective Row) hthree] at hget
  exact ⟨hlength, rfl, ⟨row, hrow, hget⟩, happend [[]] (List.cons_ne_nil _ _)⟩

end SheetStore
