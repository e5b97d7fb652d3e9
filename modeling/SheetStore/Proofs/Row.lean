import Mathlib.Data.List.Basic
import SheetStore.Proofs.Schema
import SheetStore.Proofs.Table.Questions

/-!
# Looking columns up in rows

A qualified name can be taken apart again if the name of its table has no point
(`cut?_qualified`), and tables of a valid schema have none.  So the row of a record has, under the
name of a column qualified by its table, the value of the record in that column, and under no other
table anything (`Table.get?_row`).  Asking for all columns gives the record back
(`Table.project_row`).
-/

namespace SheetStore

/-! ## Qualified names -/

theorem toList_qualified (table column : String) :
    (qualified table column).toList = table.toList ++ '.' :: column.toList := by
  simp [qualified]

/-- The first point of a qualified name stands between the table and the column. -/
theorem cut?_qualified {table : String} (h : '.' ∉ table.toList) (column : String) :
    Text.cut? '.' (qualified table column).toList = some (table.toList, column.toList) := by
  rw [toList_qualified]
  exact Text.cut?_append _ h

theorem qualified_inj {a b c d : String} (ha : '.' ∉ a.toList) (hb : '.' ∉ b.toList) :
    qualified a c = qualified b d ↔ a = b ∧ c = d := by
  constructor
  · intro h
    have hcut := cut?_qualified ha c
    rw [h, cut?_qualified hb d, Option.some.injEq, Prod.mk.injEq] at hcut
    exact ⟨String.toList_inj.1 hcut.1.symm, String.toList_inj.1 hcut.2.symm⟩
  · rintro ⟨rfl, rfl⟩
    rfl

/-- A text that is cut at its first point is a qualified name. -/
theorem eq_qualified_of_cut? {field : String} {table column : List Char}
    (h : Text.cut? '.' field.toList = some (table, column)) :
    field = qualified (String.ofList table) (String.ofList column) ∧ '.' ∉ table := by
  obtain ⟨htext, hfree⟩ := Text.of_cut? h
  refine ⟨String.toList_inj.1 ?_, hfree⟩
  rw [htext, toList_qualified, String.toList_ofList, String.toList_ofList]

/-! ## Bindings -/

/-- The order of bindings does not matter if no name is bound twice. -/
theorem lookup_reverse {bindings : List (String × String)}
    (hnodup : (bindings.map Prod.fst).Nodup) (name : String) :
    bindings.reverse.lookup name = bindings.lookup name := by
  induction bindings with
  | nil => rfl
  | cons first rest ih =>
      obtain ⟨key, value⟩ := first
      rw [List.map_cons, List.nodup_cons] at hnodup
      rw [List.reverse_cons, List.lookup_append, ih hnodup.2, List.lookup_singleton,
        List.lookup_cons]
      by_cases heq : name = key
      · subst heq
        have hnone : rest.lookup name = none := by
          rw [List.lookup_eq_none_iff]
          intro p hp
          rw [bne_iff_ne]
          exact fun hkey => hnodup.1 (List.mem_map.2 ⟨p, hp, hkey.symm⟩)
        simp [hnone]
      · have hbeq : (name == key) = false := beq_eq_false_iff_ne.2 heq
        simp [hbeq]

/-- Names may be changed as long as different names stay different. -/
theorem lookup_map {f : String → String} {bindings : List (String × String)} {name : String}
    (hinj : ∀ p ∈ bindings, f name = f p.1 → name = p.1) :
    (bindings.map fun p => (f p.1, p.2)).lookup (f name) = bindings.lookup name := by
  induction bindings with
  | nil => rfl
  | cons first rest ih =>
      rw [List.forall_mem_cons] at hinj
      rw [List.map_cons, List.lookup_cons, List.lookup_cons, ih hinj.2]
      have heq : (f name == f first.1) = (name == first.1) := by
        rw [Bool.eq_iff_iff, beq_iff_eq, beq_iff_eq]
        exact ⟨hinj.1, congrArg f⟩
      rw [heq]

/-! ## Rows of records -/

namespace Table

/-- The value of a record in a column. -/
def value? (t : Table) (record : Record) (column : String) : Option String :=
  (t.columns.zip record).lookup column

variable {t : Table} {record : Record}

/-- A value in the row of a record stands in the record, under the name of its column. -/
theorem mem_zip_of_get?_row {name value : String} (h : (t.row record).get? name = some value) :
    (name, value) ∈ (t.columns.map (qualified t.name)).zip record := by
  obtain ⟨front, rest, heq, -⟩ := List.lookup_eq_some_iff.1 h
  have hmem : (name, value) ∈ (t.row record).bindings := by
    rw [heq]
    exact List.mem_append_right _ List.mem_cons_self
  exact List.mem_reverse.1 hmem

theorem Proper.point_not_mem (h : t.Proper) : '.' ∉ t.name.toList :=
  Text.not_mem_of_isIdentifier h.name (by decide)

/-- The row of a record, looked up with any table and column. -/
theorem get?_row (hp : t.Proper) (hlen : record.length = t.columns.length) {table : String}
    (htable : '.' ∉ table.toList) (column : String) :
    (t.row record).get? (qualified table column)
      = if table = t.name then t.value? record column else none := by
  have hfst : (t.columns.zip record).map Prod.fst = t.columns := by
    rw [List.map_fst_zip (Nat.le_of_eq hlen.symm)]
  have hbindings : (t.columns.map (qualified t.name)).zip record
      = (t.columns.zip record).map fun p => (qualified t.name p.1, p.2) := by
    rw [List.zip_map_left]
    rfl
  have hnodup : (((t.columns.zip record).map fun p => (qualified t.name p.1, p.2)).map
      Prod.fst).Nodup := by
    have hnames : ((t.columns.zip record).map fun p => (qualified t.name p.1, p.2)).map Prod.fst
        = t.columns.map (qualified t.name) := by
      rw [List.map_map]
      conv => rhs; rw [← hfst, List.map_map]
      rfl
    rw [hnames, List.Nodup, List.pairwise_map]
    exact hp.nodup.imp fun hne heq =>
      hne ((qualified_inj hp.point_not_mem hp.point_not_mem).1 heq).2
  rw [row, Row.ofRecord, Row.ofList, Row.get?, hbindings, lookup_reverse hnodup]
  split
  · rename_i heq
    rw [heq]
    apply lookup_map
    intro p _ hq
    exact ((qualified_inj hp.point_not_mem hp.point_not_mem).1 hq).2
  · rename_i hne
    rw [List.lookup_eq_none_iff]
    intro p hmem
    obtain ⟨q, -, rfl⟩ := List.mem_map.1 hmem
    rw [bne_iff_ne]
    exact fun heq => hne ((qualified_inj htable hp.point_not_mem).1 heq).1

/-- A record has a value in every column of its table. -/
theorem isSome_value? (hlen : record.length = t.columns.length) {column : String}
    (hcolumn : column ∈ t.columns) : (t.value? record column).isSome = true := by
  have hfst : (t.columns.zip record).map Prod.fst = t.columns := by
    rw [List.map_fst_zip (Nat.le_of_eq hlen.symm)]
  rw [value?, List.lookup_isSome_iff]
  rw [← hfst, List.mem_map] at hcolumn
  obtain ⟨p, hp, heq⟩ := hcolumn
  exact ⟨p, hp, by simpa using heq.symm⟩

/-- A record has no value in a column that its table does not have. -/
theorem value?_eq_none {column : String} (hcolumn : column ∉ t.columns) :
    t.value? record column = none := by
  rw [value?, List.lookup_eq_none_iff]
  intro p hp
  rw [bne_iff_ne]
  rintro rfl
  exact hcolumn (List.of_mem_zip hp).1

/-! ## All columns -/

section Columns

/-- The qualified names of all columns. -/
def fields (t : Table) : List String := t.columns.map (qualified t.name)

theorem filterMap_lookup_zip {columns values : List String} (hnodup : columns.Nodup)
    (hlen : values.length = columns.length) :
    columns.filterMap (fun column => (columns.zip values).lookup column) = values := by
  induction columns generalizing values with
  | nil => exact (List.length_eq_zero_iff.1 hlen).symm
  | cons column rest ih =>
      obtain ⟨value, later, rfl⟩ := List.exists_cons_of_length_eq_add_one hlen
      rw [List.nodup_cons] at hnodup
      have hrest : rest.filterMap (fun c => ((column :: rest).zip (value :: later)).lookup c)
          = rest.filterMap (fun c => (rest.zip later).lookup c) := by
        refine List.filterMap_congr fun other hother => ?_
        have hne : (other == column) = false := by
          rw [beq_eq_false_iff_ne]
          rintro rfl
          exact hnodup.1 hother
        rw [List.zip_cons_cons, List.lookup_cons, hne]
      rw [List.filterMap_cons, hrest, ih hnodup.2 (by simpa using hlen), List.zip_cons_cons,
        List.lookup_cons_self]

/-- The values in all columns are the record. -/
theorem project_row (hp : t.Proper) (hlen : record.length = t.columns.length) :
    Query.project t.fields (t.row record) = record := by
  rw [Query.project, fields, List.filterMap_map]
  have hlookup : (t.row record).get? ∘ qualified t.name
      = fun column => (t.columns.zip record).lookup column := by
    funext column
    rw [Function.comp_apply, get?_row hp hlen hp.point_not_mem, if_pos rfl]
    rfl
  rw [hlookup, filterMap_lookup_zip hp.nodup hlen]

/-- Columns of a table may be asked for. -/
theorem checkFields_map (hp : t.Proper) {columns : List String}
    (hcolumns : ∀ c ∈ columns, c ∈ t.columns) :
    Query.checkFields [t] (columns.map (qualified t.name)) = .ok () := by
  induction columns with
  | nil => rfl
  | cons column rest ih =>
      rw [List.forall_mem_cons] at hcolumns
      have hfirst : Query.checkField [t] (qualified t.name column) = .ok () := by
        rw [Query.checkField, cut?_qualified hp.point_not_mem]
        simp [hcolumns.1]
      rw [List.map_cons, Query.checkFields, hfirst]
      exact ih hcolumns.2

/-- All columns of a table may be asked for. -/
theorem checkFields_fields (hp : t.Proper) : Query.checkFields [t] t.fields = .ok () :=
  checkFields_map hp fun _ h => h

/-- The value of a record in a column is found at the place of the column. -/
theorem value?_of_getElem? (hnodup : t.columns.Nodup) {i : Nat} {column value : String}
    (hcolumn : t.columns[i]? = some column) (hvalue : record[i]? = some value) :
    t.value? record column = some value := by
  rw [value?]
  generalize t.columns = columns at hnodup hcolumn
  induction i generalizing columns record with
  | zero =>
      obtain ⟨rest, rfl⟩ := List.head?_eq_some_iff.1 (List.head?_eq_getElem? ▸ hcolumn)
      obtain ⟨later, rfl⟩ := List.head?_eq_some_iff.1 (List.head?_eq_getElem? ▸ hvalue)
      rw [List.zip_cons_cons, List.lookup_cons_self]
  | succ i ih =>
      cases columns with
      | nil => cases hcolumn
      | cons first rest =>
          cases record with
          | nil => cases hvalue
          | cons head later =>
              rw [List.getElem?_cons_succ] at hcolumn hvalue
              rw [List.nodup_cons] at hnodup
              have hne : (column == first) = false := by
                rw [beq_eq_false_iff_ne]
                rintro rfl
                exact hnodup.1 (List.mem_of_getElem? hcolumn)
              rw [List.zip_cons_cons, List.lookup_cons, hne]
              exact ih hvalue rest hnodup.2 hcolumn

/-- The value in the first column is the first value. -/
theorem value?_first {column : String} (hcolumn : t.columns.head? = some column) :
    t.value? record column = record.head? := by
  obtain ⟨rest, hcolumns⟩ := List.head?_eq_some_iff.1 hcolumn
  rw [value?, hcolumns]
  cases record with
  | nil => rfl
  | cons value later => rw [List.zip_cons_cons, List.lookup_cons_self, List.head?_cons]

/-- The value in one column, asked for alone. -/
theorem project_single (hp : t.Proper) (hlen : record.length = t.columns.length) (column : String) :
    Query.project [qualified t.name column] (t.row record)
      = (t.value? record column).toList := by
  have hget : (t.row record).get? (qualified t.name column) = t.value? record column := by
    rw [get?_row hp hlen hp.point_not_mem, if_pos rfl]
  rw [Query.project, List.filterMap_cons, hget]
  cases t.value? record column <;> rfl

end Columns

/-! ## Rows of tables -/

section Sheets

variable {files : FileTree}

/-- Every record of a table that can be read has a value per column. -/
theorem width_of_sheets {sheets : List (SheetNumber × Sheet)} (h : t.sheets files = .ok sheets) :
    ∀ r ∈ sheets.flatMap Prod.snd, r.length = t.columns.length := by
  intro r hr
  obtain ⟨text, sheet, hdecode, hr⟩ := exists_decode_of_sheets h r hr
  obtain ⟨line, -, -, hlen⟩ := Sheet.of_decode hdecode r hr
  exact hlen

/-- Every value of a table that can be read can stand on a line. -/
theorem isCell_of_sheets {sheets : List (SheetNumber × Sheet)} (h : t.sheets files = .ok sheets) :
    ∀ r ∈ sheets.flatMap Prod.snd, ∀ v ∈ r, IsCell v := by
  intro r hr
  obtain ⟨text, sheet, hdecode, hr⟩ := exists_decode_of_sheets h r hr
  exact Sheet.isCell_of_decode hdecode r hr

/-- The rows of a table are those of its records. -/
theorem rows_of_sheets {sheets : List (SheetNumber × Sheet)} (h : t.sheets files = .ok sheets) :
    t.rows files = .ok ((sheets.flatMap Prod.snd).map t.row) := by
  rw [rows, h, List.map_flatMap]
  rfl

end Sheets

end Table

end SheetStore
