import SheetStore.Query

/-!
# Queries over rows that are known

A query reads each of its tables once and works on the rows alone after that.  `Query.answer` is
that second part: what a query answers if the rows of its tables are given, as a function of the
rows.  A query over files answers the same as soon as its tables can be read (`select_eq_answer`).

If a table cannot be read, its failure is all that a query has of it.  So a query has the same answer
in all trees in which the questions for the rows of its tables have (`select_congr`).
-/

namespace SheetStore.Query

/-- The rows that the condition admits, among those of a table. -/
def selected (scope : List String) (condition : Option Condition) (t : Table) (rows : List Row) :
    List Row :=
  match condition with
  | none => rows
  | some c => rows.filter (c.admits scope t.name)

/-- The rows of the product that are left after the second filter. -/
def checked (mode : JoinMode) (tables : List Table) (condition : Option Condition)
    (rows : List Row) : List Row :=
  match tables, condition, mode with
  | [_], _, _ => rows
  | _, some c, .joined => rows.filter (c.holds (tables.map Table.name))
  | _, _, _ => rows

/-- What a query answers over tables with the given rows. -/
def answer (mode : JoinMode) (tables : List Table) (fields : List String)
    (condition : Option Condition) (rows : Table → List Row) : Except Failure (List Record) := do
  checkFields tables fields
  let sets := tables.map fun t => selected (tables.map Table.name) condition t (rows t)
  return (checked mode tables condition (product sets)).map (project fields)

variable {tables : List Table} {condition : Option Condition} {files : FileTree}
  {rows : Table → List Row}

theorem admitted_eq_selected (scope : List String) (condition : Option Condition) {t : Table}
    {rs : List Row} (h : t.rows files = .ok rs) :
    admitted scope condition files t = .ok (selected scope condition t rs) := by
  rw [admitted, h]
  cases condition <;> rfl

theorem admittedSets_eq_map {scope : List String} (h : ∀ t ∈ tables, t.rows files = .ok (rows t)) :
    admittedSets scope condition files tables
      = .ok (tables.map fun t => selected scope condition t (rows t)) := by
  induction tables with
  | nil => rfl
  | cons t rest ih =>
      have ht := admitted_eq_selected scope condition (h t List.mem_cons_self)
      have hrest := ih fun u hu => h u (List.mem_cons_of_mem _ hu)
      rw [admittedSets, ht, hrest]
      rfl

theorem joinedRows_eq_checked (mode : JoinMode) (h : ∀ t ∈ tables, t.rows files = .ok (rows t)) :
    joinedRows mode tables condition files
      = .ok (checked mode tables condition (product (tables.map fun t =>
          selected (tables.map Table.name) condition t (rows t)))) := by
  rw [joinedRows, admittedSets_eq_map h]
  rcases tables with _ | ⟨t, _ | ⟨u, rest⟩⟩
  · cases condition <;> cases mode <;> rfl
  · rfl
  · cases condition <;> cases mode <;> rfl

/-- A query whose tables can be read is a function of their rows. -/
theorem select_eq_answer (mode : JoinMode) (fields : List String)
    (h : ∀ t ∈ tables, t.rows files = .ok (rows t)) :
    select mode tables fields condition files = answer mode tables fields condition rows := by
  rw [select, answer, joinedRows_eq_checked mode h]
  rfl

/-- A query asks the files for nothing but the rows of its tables. -/
theorem select_congr {other : FileTree} (mode : JoinMode) (fields : List String)
    (h : ∀ t ∈ tables, t.rows other = t.rows files) :
    select mode tables fields condition other = select mode tables fields condition files := by
  have hsets : ∀ scope, ∀ ts : List Table, (∀ t ∈ ts, t.rows other = t.rows files) →
      admittedSets scope condition other ts = admittedSets scope condition files ts := by
    intro scope ts hts
    induction ts with
    | nil => rfl
    | cons t rest ih =>
        rw [List.forall_mem_cons] at hts
        rw [admittedSets, admittedSets, admitted, admitted, hts.1, ih hts.2]
  rw [select, select, joinedRows, joinedRows, hsets _ tables h]

end SheetStore.Query
