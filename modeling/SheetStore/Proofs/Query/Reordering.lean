import Mathlib.Data.List.Forall2
import Mathlib.Data.List.Perm.Basic
import SheetStore.Proofs.Query.Rows

/-!
# Queries over reordered rows

A query never looks at the place of a row, so if the rows of its tables are put in another order, it
answers the same records in some order, or the same failure (`answer_perm`).  Each part of a query
has this property: the filters, the product and the projection.

Of a table a query uses the name and the columns, but not the directory (`answer_map_tables`).
-/

namespace SheetStore

/-! ## Products -/

theorem pairs_perm {left left' right right' : List Row} (hleft : left.Perm left')
    (hright : right.Perm right') : (pairs left right).Perm (pairs left' right') :=
  hleft.flatMap fun l _ => hright.map l.merge

theorem foldl_pairs_perm {first first' : List Row} {sets sets' : List (List Row)}
    (hsets : List.Forall₂ List.Perm sets sets') (hfirst : first.Perm first') :
    (sets.foldl pairs first).Perm (sets'.foldl pairs first') := by
  induction hsets generalizing first first' with
  | nil => exact hfirst
  | cons hset _ ih =>
      rw [List.foldl_cons, List.foldl_cons]
      exact ih (pairs_perm hfirst hset)

/-- The product of reordered lists is the reordered product. -/
theorem product_perm {sets sets' : List (List Row)} (h : List.Forall₂ List.Perm sets sets') :
    (product sets).Perm (product sets') := by
  cases h with
  | nil => exact .refl _
  | cons hfirst hrest => exact foldl_pairs_perm hrest hfirst

namespace Query

variable {tables : List Table} {rows rows' : Table → List Row}

/-! ## Reordered rows -/

theorem selected_perm (scope : List String) (condition : Option Condition) {t : Table}
    {left right : List Row} (h : left.Perm right) :
    (selected scope condition t left).Perm (selected scope condition t right) := by
  cases condition with
  | none => exact h
  | some c => exact h.filter _

theorem checked_perm (mode : JoinMode) (tables : List Table) (condition : Option Condition)
    {left right : List Row} (h : left.Perm right) :
    (checked mode tables condition left).Perm (checked mode tables condition right) := by
  unfold checked
  split
  · exact h
  · exact h.filter _
  · exact h

/-- A query over reordered rows answers the same records in some order, or the same failure. -/
theorem answer_perm (mode : JoinMode) (fields : List String) (condition : Option Condition)
    (h : ∀ t ∈ tables, (rows t).Perm (rows' t)) :
    (∃ failure, answer mode tables fields condition rows = .error failure ∧
      answer mode tables fields condition rows' = .error failure) ∨
    ∃ records records', answer mode tables fields condition rows = .ok records ∧
      answer mode tables fields condition rows' = .ok records' ∧ records.Perm records' := by
  rw [answer, answer]
  cases checkFields tables fields with
  | error failure => exact .inl ⟨failure, rfl, rfl⟩
  | ok _ =>
      refine .inr ⟨_, _, rfl, rfl, (checked_perm mode tables condition (product_perm ?_)).map _⟩
      rw [List.forall₂_map_left_iff, List.forall₂_map_right_iff, List.forall₂_same]
      exact fun t ht => selected_perm _ condition (h t ht)

/-! ## Tables elsewhere -/

section Elsewhere

variable {move : Table → Table} (hname : ∀ t, (move t).name = t.name)
  (hcolumns : ∀ t, (move t).columns = t.columns)

include hname hcolumns

theorem checkField_map_tables (tables : List Table) (field : String) :
    checkField (tables.map move) field = checkField tables field := by
  unfold checkField
  split
  · rfl
  · rename_i table column _
    have hfind : (tables.map move).find? (·.name == String.ofList table)
        = (tables.find? (·.name == String.ofList table)).map move := by
      rw [List.find?_map]
      simp only [Function.comp_def, hname]
    rw [hfind]
    cases tables.find? (·.name == String.ofList table) with
    | none => rfl
    | some t => simp only [Option.map_some, hcolumns]

theorem checkFields_map_tables (tables : List Table) (fields : List String) :
    checkFields (tables.map move) fields = checkFields tables fields := by
  induction fields with
  | nil => rfl
  | cons field rest ih => rw [checkFields, checkFields, ih, checkField_map_tables hname hcolumns]

/-- A query over tables in other directories, with the same rows, has the same answer. -/
theorem answer_map_tables (mode : JoinMode) (tables : List Table) (fields : List String)
    (condition : Option Condition) (hrows : ∀ t ∈ tables, rows' (move t) = rows t) :
    answer mode (tables.map move) fields condition rows'
      = answer mode tables fields condition rows := by
  have hnames : (tables.map move).map Table.name = tables.map Table.name := by
    rw [List.map_map]
    exact List.map_congr_left fun t _ => hname t
  have hsets : (tables.map move).map (fun t =>
        selected (tables.map Table.name) condition t (rows' t))
      = tables.map fun t => selected (tables.map Table.name) condition t (rows t) := by
    rw [List.map_map]
    refine List.map_congr_left fun t ht => ?_
    rw [Function.comp_apply, hrows t ht]
    cases condition with
    | none => rfl
    | some c => simp only [selected, hname]
  have hchecked : ∀ all, checked mode (tables.map move) condition all
      = checked mode tables condition all := by
    intro all
    rcases tables with _ | ⟨t, _ | ⟨u, rest⟩⟩
    · rfl
    · rfl
    · cases condition with
      | none => rfl
      | some c =>
          cases mode with
          | joined => exact congrArg (fun scope => all.filter (c.holds scope)) hnames
          | perTable => rfl
  rw [answer, answer, checkFields_map_tables hname hcolumns, hnames, hsets]
  simp only [hchecked]

end Elsewhere

end Query

end SheetStore
