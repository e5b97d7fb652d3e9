import SheetStore.Condition

/-!
# Readings of a condition

A *reading* of conditions makes a conjunction true if both sides are and a disjunction if one side
is (`Condition.IsReading`), so it is known from the comparisons (`IsReading.mono`,
`IsReading.congr`).  `holds` and `admits` are readings.  In the scope of a single table there is no
other table to leave open, and the two agree (`Condition.admits_eq_holds`).
-/

namespace SheetStore.Condition

variable {reading other : Condition → Bool}

/-- Conditions without negation are read from their comparisons. -/
structure IsReading (reading : Condition → Bool) : Prop where
  /-- A text that is no comparison is false. -/
  malformed : ∀ text, reading (.malformed text) = false
  /-- A conjunction is true if both sides are. -/
  and : ∀ left right, reading (.and left right) = (reading left && reading right)
  /-- A disjunction is true if one of the sides is. -/
  or : ∀ left right, reading (.or left right) = (reading left || reading right)

theorem isReading_holds (scope : List String) (row : Row) : IsReading (holds scope row) :=
  ⟨fun _ => rfl, fun _ _ => rfl, fun _ _ => rfl⟩

theorem isReading_admits (scope : List String) (current : String) (row : Row) :
    IsReading (admits scope current row) :=
  ⟨fun _ => rfl, fun _ _ => rfl, fun _ _ => rfl⟩

/-- Where more comparisons are true, more conditions are. -/
theorem IsReading.mono (h : IsReading reading) (h' : IsReading other)
    (hequals : ∀ table column value, reading (.equals table column value) = true →
      other (.equals table column value) = true)
    {c : Condition} (hc : reading c = true) : other c = true := by
  induction c with
  | equals table column value => exact hequals table column value hc
  | malformed text =>
      rw [h.malformed] at hc
      cases hc
  | and left right ihl ihr =>
      rw [h.and, Bool.and_eq_true] at hc
      rw [h'.and, ihl hc.1, ihr hc.2]
      rfl
  | or left right ihl ihr =>
      rw [h.or, Bool.or_eq_true] at hc
      rw [h'.or, Bool.or_eq_true]
      exact hc.imp ihl ihr

/-- Readings that agree on comparisons agree. -/
theorem IsReading.congr (h : IsReading reading) (h' : IsReading other)
    (hequals : ∀ table column value,
      reading (.equals table column value) = other (.equals table column value))
    (c : Condition) : reading c = other c := by
  refine Bool.eq_iff_iff.2 ⟨h.mono h' fun table column value htrue => ?_,
    h'.mono h fun table column value htrue => ?_⟩
  · rw [← hequals, htrue]
  · rw [hequals, htrue]

/-! ## Scopes -/

section Scope

variable {scope scope' : List String} (h : ∀ table, table ∈ scope ↔ table ∈ scope')

include h

/-- Neither the order of a scope nor a repetition in it matters to a condition. -/
theorem holds_of_mem_iff (c : Condition) (row : Row) : c.holds scope row = c.holds scope' row := by
  refine (isReading_holds scope row).congr (isReading_holds scope' row) (fun table _ _ => ?_) c
  rw [holds, holds, List.contains_eq_mem, List.contains_eq_mem, decide_eq_decide.2 (h table)]

theorem admits_of_mem_iff (c : Condition) (current : String) (row : Row) :
    c.admits scope current row = c.admits scope' current row := by
  refine (isReading_admits scope current row).congr (isReading_admits scope' current row)
    (fun table _ _ => ?_) c
  rw [admits, admits, List.contains_eq_mem, List.contains_eq_mem, decide_eq_decide.2 (h table)]

end Scope

/-- A statement on one table may use either reading. -/
theorem admits_eq_holds (table : String) (row : Row) (c : Condition) :
    c.admits [table] table row = c.holds [table] row := by
  refine (isReading_admits _ _ _).congr (isReading_holds _ _) (fun other column value => ?_) c
  by_cases h : other = table
  · simp [admits, holds, h]
  · simp [admits, holds, h]

end SheetStore.Condition
