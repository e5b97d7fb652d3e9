import SheetStore.Proofs.Query.Reference

/-!
# The records that a query answers

Whatever lies in the directories of its tables, a query that succeeds has read them all
(`exists_sheets_of_select`), and then each record that it answers has the requested fields of the
row of a tuple (`exists_tuple_of_mem_answer`).  This asks nothing of the mode or the condition,
which only leave tuples out, and the tables may repeat.  Where they do, the row of a tuple has the
values of the later record, but it has all names of both (`Tuple.isSome_get?_row`).

So a field that passes its check has a value in every row.  No field is dropped from a record, and
no value breaks a line (`cells_of_select`).
-/

namespace SheetStore

/-! ## Rows of tuples -/

/-- Every value in the row of a record is one of the record. -/
theorem Table.mem_of_get?_row {t : Table} {record : Record} {name value : String}
    (h : (t.row record).get? name = some value) : value ∈ record :=
  (List.of_mem_zip (mem_zip_of_get?_row h)).2

namespace Tuple

variable {tuple : Tuple}

/-- Every value in the row of a tuple is one of its records. -/
theorem exists_record_of_get?_row {name value : String} (h : tuple.row.get? name = some value) :
    ∃ t r, (t, r) ∈ tuple ∧ value ∈ r := by
  induction tuple with
  | nil => cases h
  | cons first rest ih =>
      obtain ⟨t, r⟩ := first
      rw [row, Row.get?_merge, Option.or_eq_some_iff] at h
      rcases h with hrest | ⟨-, hfirst⟩
      · obtain ⟨u, q, hmem, hvalue⟩ := ih hrest
        exact ⟨u, q, List.mem_cons_of_mem _ hmem, hvalue⟩
      · exact ⟨t, r, List.mem_cons_self, Table.mem_of_get?_row hfirst⟩

/-- The row of a tuple has a value in every column of its tables. -/
theorem isSome_get?_row {t : Table} {r : Record} (hmem : (t, r) ∈ tuple) (hp : t.Proper)
    (hlen : r.length = t.columns.length) {column : String} (hcolumn : column ∈ t.columns) :
    (tuple.row.get? (qualified t.name column)).isSome = true := by
  induction tuple with
  | nil => cases hmem
  | cons first rest ih =>
      obtain ⟨u, q⟩ := first
      rw [row, Row.get?_merge, Option.isSome_or, Bool.or_eq_true]
      rcases List.mem_cons.1 hmem with heq | hmem
      · cases heq
        right
        rw [Table.get?_row hp hlen hp.point_not_mem, if_pos rfl]
        exact Table.isSome_value? hlen hcolumn
      · exact .inl (ih hmem)

end Tuple

namespace Query

variable {mode : JoinMode} {tables : List Table} {fields : List String}
  {condition : Option Condition} {files : FileTree} {answered : List Record}

/-! ## What is left after both filters -/

theorem mem_of_mem_checked {rows : List Row} {row : Row}
    (h : row ∈ checked mode tables condition rows) : row ∈ rows := by
  unfold checked at h
  split at h
  · exact h
  · exact List.mem_of_mem_filter h
  · exact h

/-- Every record that is answered has the requested fields of the row of a tuple. -/
theorem exists_tuple_of_mem_answer {records : Table → List Record}
    (h : answer mode tables fields condition (fun t => (records t).map t.row) = .ok answered) :
    checkFields tables fields = .ok () ∧ ∀ values ∈ answered, ∃ tuple : Tuple,
      tuple.map Prod.fst = tables ∧ (∀ t r, (t, r) ∈ tuple → r ∈ records t) ∧
        values = project fields tuple.row := by
  rw [answer] at h
  obtain ⟨_, hfields, h⟩ := of_bind_ok h
  cases h
  refine ⟨hfields, fun values hvalues => ?_⟩
  obtain ⟨row, hrow, rfl⟩ := List.mem_map.1 hvalues
  have hproduct := mem_of_mem_checked hrow
  by_cases hne : tables = []
  · subst hne
    cases hproduct
  · rw [product_selected _ _ hne] at hproduct
    obtain ⟨tuple, htuple, rfl⟩ := List.mem_map.1 hproduct
    obtain ⟨htables, hrecords⟩ := of_mem_tuples (List.mem_of_mem_filter htuple)
    exact ⟨tuple, htables, hrecords, rfl⟩

/-! ## Tables that are read -/

theorem exists_sheets_of_admittedSets {scope : List String} {sets : List (List Row)}
    (h : admittedSets scope condition files tables = .ok sets) :
    ∀ t ∈ tables, ∃ sheets, t.sheets files = .ok sheets := by
  induction tables generalizing sets with
  | nil => exact List.forall_mem_nil _
  | cons t rest ih =>
      rw [admittedSets] at h
      obtain ⟨rows, hfirst, h⟩ := of_bind_ok h
      obtain ⟨others, hrest, -⟩ := of_bind_ok h
      rw [admitted] at hfirst
      obtain ⟨all, hrows, -⟩ := of_bind_ok hfirst
      obtain ⟨sheets, hsheets, -⟩ := of_bind_ok hrows
      rw [List.forall_mem_cons]
      exact ⟨⟨sheets, hsheets⟩, ih hrest⟩

/-- A query that succeeds has read every one of its tables. -/
theorem exists_sheets_of_select (h : select mode tables fields condition files = .ok answered) :
    ∀ t ∈ tables, ∃ sheets, t.sheets files = .ok sheets := by
  rw [select] at h
  obtain ⟨_, -, h⟩ := of_bind_ok h
  obtain ⟨rows, hjoined, -⟩ := of_bind_ok h
  rw [joinedRows] at hjoined
  obtain ⟨sets, hsets, -⟩ := of_bind_ok hjoined
  exact exists_sheets_of_admittedSets hsets

/-! ## Fields and values -/

/-- A field that passes its check consists of identifiers and a point. -/
theorem isCell_of_checkField (hproper : ∀ t ∈ tables, t.Proper) {field : String}
    (h : checkField tables field = .ok ()) : IsCell field := by
  obtain ⟨t, ht, column, hcolumn, table, hcut, hname⟩ := of_checkField h
  have hp := hproper t ht
  obtain ⟨rfl, -⟩ := eq_qualified_of_cut? hcut
  rw [← hname, String.ofList_toList]
  have hfree {c : Char} (hc : Text.isIdentifierChar c = false) (hpoint : c ≠ '.') :
      c ∉ (qualified t.name column).toList := by
    rw [toList_qualified, List.mem_append, List.mem_cons, not_or, not_or]
    exact ⟨Text.not_mem_of_isIdentifier hp.name hc, hpoint,
      Text.not_mem_of_isIdentifier (hp.identifiers column hcolumn) hc⟩
  exact ⟨hfree (by decide) (by decide), hfree (by decide) (by decide)⟩

/-- A field that passes its check has a value in the row of every tuple of the tables. -/
theorem isSome_of_checkField (hproper : ∀ t ∈ tables, t.Proper) {tuple : Tuple}
    (htables : tuple.map Prod.fst = tables)
    (hwidth : ∀ t r, (t, r) ∈ tuple → r.length = t.columns.length) {field : String}
    (h : checkField tables field = .ok ()) : (tuple.row.get? field).isSome = true := by
  obtain ⟨t, ht, column, hcolumn, table, hcut, hname⟩ := of_checkField h
  have hp := hproper t ht
  obtain ⟨rfl, -⟩ := eq_qualified_of_cut? hcut
  rw [← htables] at ht
  obtain ⟨⟨u, r⟩, hmem, rfl⟩ := List.mem_map.1 ht
  rw [← hname, String.ofList_toList]
  exact Tuple.isSome_get?_row hmem hp (hwidth u r hmem) hcolumn

/-- A query that succeeds answers records with a value per field, and its fields and values can
stand on a line. -/
theorem cells_of_select (hproper : ∀ t ∈ tables, t.Proper)
    (h : select mode tables fields condition files = .ok answered) :
    (∀ field ∈ fields, IsCell field) ∧
      ∀ values ∈ answered, values.length = fields.length ∧ ∀ v ∈ values, IsCell v := by
  choose! sheets hsheets using exists_sheets_of_select h
  rw [select_eq_answer mode fields fun t ht => Table.rows_of_sheets (hsheets t ht)] at h
  obtain ⟨hfields, hanswered⟩ := exists_tuple_of_mem_answer h
  have hall := of_checkFields hfields
  refine ⟨fun field hfield => isCell_of_checkField hproper (hall field hfield),
    fun values hvalues => ?_⟩
  obtain ⟨tuple, htables, hrecords, rfl⟩ := hanswered values hvalues
  have hsheetsOf : ∀ t r, (t, r) ∈ tuple → t.sheets files = .ok (sheets t) := fun t r hmem =>
    hsheets t (htables ▸ List.mem_map_of_mem hmem)
  constructor
  · rw [project, List.filterMap_length_eq_length]
    exact fun field hfield => isSome_of_checkField hproper htables
      (fun t r hmem => Table.width_of_sheets (hsheetsOf t r hmem) r (hrecords t r hmem))
      (hall field hfield)
  · intro v hv
    obtain ⟨field, -, hget⟩ := List.mem_filterMap.1 hv
    obtain ⟨t, r, hmem, hvalue⟩ := Tuple.exists_record_of_get?_row hget
    exact Table.isCell_of_sheets (hsheetsOf t r hmem) r (hrecords t r hmem) v hvalue

end Query

end SheetStore
