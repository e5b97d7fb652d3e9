import SheetStore.Query
import SheetStore.Proofs.Row

/-!
# Tuples of records

A *tuple* has one record from each of several tables.  `tuples` lists all of them in row-major
order: the record of the last table varies fastest.  The product of the rows of the tables is the
list of the rows of the tuples, in the same order (`product_eq_map_row`), and choosing from fewer
records of each table is the same as leaving tuples out (`tuples_filter`).

The row of a tuple merges the rows of its records.  If no two tables have one name, nothing is lost:
each column of each table is found under its qualified name (`Tuple.get?_row`).
-/

namespace SheetStore

/-! ## Products -/

theorem pairs_assoc (a b c : List Row) : pairs (pairs a b) c = pairs a (pairs b c) := by
  simp only [pairs, List.flatMap_assoc, List.flatMap_map, List.map_flatMap, List.map_map]
  refine congrArg (a.flatMap ·) (funext fun l => congrArg (b.flatMap ·) (funext fun m => ?_))
  exact List.map_congr_left fun r _ => Row.merge_assoc l m r

/-- The row without bindings is neutral. -/
theorem pairs_empty (a : List Row) : pairs a [⟨[]⟩] = a := by
  induction a with
  | nil => rfl
  | cons l rest ih =>
      rw [pairs] at ih ⊢
      rw [List.flatMap_cons, ih]
      rfl

/-- The product may be formed from the right. -/
theorem product_eq_foldr {sets : List (List Row)} (hne : sets ≠ []) :
    product sets = sets.foldr pairs [⟨[]⟩] := by
  obtain ⟨first, rest, rfl⟩ := List.exists_cons_of_ne_nil hne
  clear hne
  rw [product, List.foldr_cons]
  induction rest generalizing first with
  | nil => exact (pairs_empty first).symm
  | cons second rest ih => rw [List.foldl_cons, ih, List.foldr_cons, pairs_assoc]

/-! ## Tuples -/

/-- One record from each of several tables. -/
abbrev Tuple := List (Table × Record)

/-- All tuples of the tables, the first table outermost. -/
def tuples (records : Table → List Record) : List Table → List Tuple
  | [] => [[]]
  | t :: rest => (records t).flatMap fun r => (tuples records rest).map ((t, r) :: ·)

/-- The merged row of the records. -/
def Tuple.row : Tuple → Row
  | [] => ⟨[]⟩
  | (t, record) :: rest => (t.row record).merge (row rest)

/-- The value in a column of a table. -/
def Tuple.value? (tuple : Tuple) (table column : String) : Option String :=
  match tuple.find? (·.1.name == table) with
  | some (t, record) => t.value? record column
  | none => none

/-- The product of the rows of tables has the rows of the tuples. -/
theorem product_eq_map_row {tables : List Table} (records : Table → List Record)
    (hne : tables ≠ []) :
    product (tables.map fun t => (records t).map t.row)
      = (tuples records tables).map Tuple.row := by
  have hfold : ∀ ts : List Table, (ts.map fun t => (records t).map t.row).foldr pairs [⟨[]⟩]
      = (tuples records ts).map Tuple.row := by
    intro ts
    induction ts with
    | nil => rfl
    | cons t rest ih =>
        rw [List.map_cons, List.foldr_cons, ih, pairs, tuples, List.flatMap_map, List.map_flatMap]
        refine congrArg ((records t).flatMap ·) (funext fun r => ?_)
        rw [List.map_map, List.map_map]
        rfl
  rw [← hfold, product_eq_foldr (mt List.map_eq_nil_iff.1 hne)]

/-- Choosing from the records with a property gives the tuples of records with the property. -/
theorem tuples_filter (records : Table → List Record) (p : Table → Record → Bool)
    (tables : List Table) :
    tuples (fun t => (records t).filter (p t)) tables
      = (tuples records tables).filter fun tuple => tuple.all fun (t, r) => p t r := by
  induction tables with
  | nil => rfl
  | cons t rest ih =>
      rw [tuples, tuples, ih]
      generalize records t = rs
      induction rs with
      | nil => rfl
      | cons r rs ihr =>
          rw [List.flatMap_cons, List.filter_append, ← ihr, List.filter_map]
          cases hr : p t r with
          | true =>
              rw [List.filter_cons_of_pos hr, List.flatMap_cons]
              congr 2
              refine List.filter_congr fun tuple _ => ?_
              simp [hr]
          | false =>
              rw [List.filter_cons_of_neg (by simp [hr])]
              have hnone : (tuples records rest).filter
                  ((fun tuple => tuple.all fun (t, r) => p t r) ∘ ((t, r) :: ·)) = [] := by
                rw [List.filter_eq_nil_iff]
                simp [hr]
              rw [hnone]
              rfl

theorem of_mem_tuples {records : Table → List Record} {tables : List Table} {tuple : Tuple}
    (h : tuple ∈ tuples records tables) :
    tuple.map Prod.fst = tables ∧ ∀ t r, (t, r) ∈ tuple → r ∈ records t := by
  induction tables generalizing tuple with
  | nil =>
      rw [tuples, List.mem_singleton] at h
      subst h
      exact ⟨rfl, fun t r hmem => by cases hmem⟩
  | cons t rest ih =>
      rw [tuples, List.mem_flatMap] at h
      obtain ⟨r, hr, h⟩ := h
      obtain ⟨tail, htail, rfl⟩ := List.mem_map.1 h
      obtain ⟨htables, hrecords⟩ := ih htail
      refine ⟨by rw [List.map_cons, htables], fun u q hmem => ?_⟩
      rcases List.mem_cons.1 hmem with heq | hmem
      · cases heq
        exact hr
      · exact hrecords u q hmem

theorem mem_tables_of_mem_tuples {records : Table → List Record} {tables : List Table}
    {tuple : Tuple} (h : tuple ∈ tuples records tables) {t : Table} {r : Record}
    (hmem : (t, r) ∈ tuple) : t ∈ tables :=
  (of_mem_tuples h).1 ▸ List.mem_map_of_mem hmem

theorem map_name_of_mem_tuples {records : Table → List Record} {tables : List Table}
    {tuple : Tuple} (h : tuple ∈ tuples records tables) :
    tuple.map (·.1.name) = tables.map Table.name := by
  rw [← (of_mem_tuples h).1, List.map_map]
  rfl

/-! ## Looking columns up -/

/-- Records of their tables, of which no two have one name. -/
structure Tuple.Fits (tuple : Tuple) : Prop where
  /-- The tables are proper. -/
  proper : ∀ t r, (t, r) ∈ tuple → t.Proper
  /-- Each record has a value per column. -/
  width : ∀ t r, (t, r) ∈ tuple → r.length = t.columns.length
  /-- The tables differ in their names. -/
  nodup : (tuple.map (·.1.name)).Nodup

namespace Tuple

theorem Fits.tail {t : Table} {r : Record} {tuple : Tuple} (h : Fits ((t, r) :: tuple)) :
    Fits tuple where
  proper u q hmem := h.proper u q (List.mem_cons_of_mem _ hmem)
  width u q hmem := h.width u q (List.mem_cons_of_mem _ hmem)
  nodup := (List.nodup_cons.1 h.nodup).2

theorem value?_eq_none {tuple : Tuple} {table : String} (h : table ∉ tuple.map (·.1.name))
    (column : String) : tuple.value? table column = none := by
  have hfind : tuple.find? (·.1.name == table) = none := by
    rw [List.find?_eq_none]
    intro p hp
    rw [beq_iff_eq]
    exact fun heq => h (List.mem_map.2 ⟨p, hp, heq⟩)
  rw [value?, hfind]

/-- The value that a tuple has in a column of one of its tables is the value of the record. -/
theorem value?_of_mem {tuple : Tuple} (h : tuple.Fits) {t : Table} {r : Record}
    (hmem : (t, r) ∈ tuple) (column : String) :
    tuple.value? t.name column = t.value? r column := by
  induction tuple with
  | nil => cases hmem
  | cons first rest ih =>
      obtain ⟨u, q⟩ := first
      rcases List.mem_cons.1 hmem with heq | hmem
      · cases heq
        simp [value?]
      · have hne : u.name ≠ t.name := by
          intro heq
          exact (List.nodup_cons.1 h.nodup).1 (List.mem_map.2 ⟨_, hmem, heq.symm⟩)
        rw [← ih h.tail hmem]
        simp [value?, hne]

/-- The row of a tuple has the values of the tuple. -/
theorem get?_row {tuple : Tuple} (h : tuple.Fits) {table : String} (htable : '.' ∉ table.toList)
    (column : String) : tuple.row.get? (qualified table column) = tuple.value? table column := by
  induction tuple with
  | nil => rfl
  | cons first rest ih =>
      obtain ⟨t, r⟩ := first
      have hrow := Table.get?_row (h.proper t r List.mem_cons_self)
        (h.width t r List.mem_cons_self) htable column
      rw [row, Row.get?_merge, ih h.tail, hrow]
      by_cases heq : table = t.name
      · have hrest : value? rest table column = none := by
          apply value?_eq_none
          rw [heq]
          exact (List.nodup_cons.1 h.nodup).1
        rw [hrest, if_pos heq, Option.none_or, heq, value?_of_mem h List.mem_cons_self]
      · have hbeq : (t.name == table) = false := beq_eq_false_iff_ne.2 (Ne.symm heq)
        rw [if_neg heq, Option.or_none]
        simp [value?, hbeq]

end Tuple

end SheetStore
