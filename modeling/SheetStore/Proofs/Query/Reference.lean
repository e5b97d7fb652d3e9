import SheetStore.Database
import SheetStore.Proofs.Query.Rows
import SheetStore.Proofs.Query.Tuples
import SheetStore.Proofs.Condition
import SheetStore.Proofs.Checks
import SheetStore.Proofs.Steps

/-!
# What a joined query answers

A query over several tables means this: list all tuples of records, keep those that meet the
condition, and answer the values of the requested fields of each.  `Condition.meets` reads a
condition on a tuple, without rows and their qualified names.

A query filters the rows of each table before it forms the product.  That leaves out only rows that
are part of no tuple which meets the condition (`Condition.admits_of_meets`), because conditions
have no negation and the first filter takes every comparison on another table as satisfied.  So the
first filter cannot be seen, and a joined query answers what it means (`select_eq_tuples`).
-/

namespace SheetStore

/-! ## Conditions on tuples -/

/-- Whether a tuple meets the condition: the record of the table has the value in the column. -/
def Condition.meets (tuple : Tuple) : Condition → Bool
  | .equals table column value => tuple.value? table column == some value
  | .malformed _ => false
  | .and left right => left.meets tuple && right.meets tuple
  | .or left right => left.meets tuple || right.meets tuple

namespace Condition

variable {tuple : Tuple}

theorem isReading_meets (tuple : Tuple) : IsReading (meets tuple) :=
  ⟨fun _ => rfl, fun _ _ => rfl, fun _ _ => rfl⟩

/-- On the row of a tuple a condition holds if the tuple meets it. -/
theorem holds_row (h : tuple.Fits) (c : Condition) :
    c.holds (tuple.map (·.1.name)) tuple.row = c.meets tuple := by
  refine (isReading_holds _ _).congr (isReading_meets tuple) (fun table column value => ?_) c
  rw [holds, meets]
  by_cases hmem : table ∈ tuple.map (·.1.name)
  · obtain ⟨⟨t, r⟩, hp, rfl⟩ := List.mem_map.1 hmem
    rw [Tuple.get?_row h (h.proper t r hp).point_not_mem, List.contains_iff_mem.2 hmem,
      Bool.true_and]
  · rw [Tuple.value?_eq_none hmem]
    simp [hmem]

/-- With a single table the first filter is the condition. -/
theorem admits_eq_meets {t : Table} {r : Record} (h : Tuple.Fits [(t, r)]) (c : Condition) :
    c.admits [t.name] t.name (t.row r) = c.meets [(t, r)] := by
  rw [admits_eq_holds]
  exact holds_row h c

/-- No row of a tuple that meets a condition is filtered out. -/
theorem admits_of_meets (h : tuple.Fits) {t : Table} {r : Record} (hmem : (t, r) ∈ tuple)
    {c : Condition} (hc : c.meets tuple = true) :
    c.admits (tuple.map (·.1.name)) t.name (t.row r) = true := by
  refine (isReading_meets tuple).mono (isReading_admits _ _ _) (fun table column value htrue => ?_) hc
  rw [meets, beq_iff_eq] at htrue
  have hscope : table ∈ tuple.map (·.1.name) := by
    by_contra hnot
    rw [Tuple.value?_eq_none hnot] at htrue
    cases htrue
  rw [admits, List.contains_iff_mem.2 hscope, Bool.true_and, Bool.or_eq_true]
  by_cases heq : table = t.name
  · right
    have hp := h.proper t r hmem
    rw [heq, Tuple.value?_of_mem h hmem] at htrue
    rw [heq, Table.get?_row hp (h.width t r hmem) hp.point_not_mem, if_pos rfl, htrue]
    exact beq_self_eq_true _
  · left
    exact bne_iff_ne.2 heq

end Condition

/-! ## Fields -/

/-- The value of a field, which is a table and a column with a point between them. -/
def Tuple.field? (tuple : Tuple) (field : String) : Option String :=
  match Text.cut? '.' field.toList with
  | some (table, column) => tuple.value? (String.ofList table) (String.ofList column)
  | none => none

namespace Query

variable {tables : List Table}

theorem of_checkField {field : String} (h : checkField tables field = .ok ()) :
    ∃ t ∈ tables, ∃ column ∈ t.columns, ∃ table,
      Text.cut? '.' field.toList = some (table, column.toList) ∧ t.name = String.ofList table := by
  rw [checkField] at h
  split at h
  · cases h
  · rename_i table column hcut
    split at h
    · cases h
    · rename_i t hfind
      split at h
      · rename_i hcolumn
        refine ⟨t, List.mem_of_find?_eq_some hfind, String.ofList column, ?_, table, ?_, ?_⟩
        · exact List.contains_iff_mem.1 hcolumn
        · rw [hcut, String.toList_ofList]
        · have := List.find?_some hfind
          exact beq_iff_eq.1 this
      · cases h

theorem of_checkFields {fields : List String} (h : checkFields tables fields = .ok ()) :
    ∀ field ∈ fields, checkField tables field = .ok () := by
  induction fields with
  | nil => exact List.forall_mem_nil _
  | cons field rest ih =>
      rw [checkFields] at h
      obtain ⟨_, hfirst, h⟩ := of_bind_ok h
      rw [List.forall_mem_cons]
      exact ⟨hfirst, ih h⟩

/-- A field that passes its check has a value in every tuple, and the row of the tuple has it. -/
theorem get?_row_of_checkField {tuple : Tuple} (h : tuple.Fits)
    (htables : tuple.map Prod.fst = tables) {field : String}
    (hfield : checkField tables field = .ok ()) :
    tuple.row.get? field = tuple.field? field ∧ (tuple.field? field).isSome = true := by
  obtain ⟨t, ht, column, hcolumn, table, hcut, hname⟩ := of_checkField hfield
  rw [← htables] at ht
  obtain ⟨⟨u, r⟩, hmem, rfl⟩ := List.mem_map.1 ht
  obtain ⟨heq, -⟩ := eq_qualified_of_cut? hcut
  have hvalue : tuple.field? field = u.value? r column := by
    simp only [Tuple.field?, hcut]
    rw [← hname, String.ofList_toList, Tuple.value?_of_mem h hmem]
  rw [hvalue]
  constructor
  · rw [heq, ← hname, String.ofList_toList,
      Tuple.get?_row h (h.proper u r hmem).point_not_mem, Tuple.value?_of_mem h hmem]
  · exact Table.isSome_value? (h.width u r hmem) hcolumn

/-- The fields of the row of a tuple are those of the tuple. -/
theorem project_row {tuple : Tuple} (h : tuple.Fits) (htables : tuple.map Prod.fst = tables)
    {fields : List String} (hfields : checkFields tables fields = .ok ()) :
    (project fields tuple.row).map some = fields.map tuple.field? := by
  have hall := of_checkFields hfields
  clear hfields
  induction fields with
  | nil => rfl
  | cons field rest ih =>
      rw [List.forall_mem_cons] at hall
      obtain ⟨hget, hsome⟩ := get?_row_of_checkField h htables hall.1
      obtain ⟨value, hvalue⟩ := Option.isSome_iff_exists.1 hsome
      rw [project] at ih ⊢
      rw [List.filterMap_cons, hget, hvalue, List.map_cons, List.map_cons, ih hall.2, hvalue]

/-! ## The first filter cannot be seen -/

/-- The rows that are selected are those of some records. -/
theorem selected_map_row (scope : List String) (condition : Option Condition) (t : Table)
    (records : List Record) :
    selected scope condition t (records.map t.row)
      = (records.filter fun r => condition.all (·.admits scope t.name (t.row r))).map t.row := by
  cases condition with
  | none => simp [selected]
  | some c => exact List.filter_map

/-- The product of the rows that are selected has the rows of the tuples whose records are all
admitted. -/
theorem product_selected (records : Table → List Record) (scope : List String)
    {condition : Option Condition} (hne : tables ≠ []) :
    product (tables.map fun t => selected scope condition t ((records t).map t.row))
      = ((tuples records tables).filter fun tuple => tuple.all fun p =>
          condition.all (·.admits scope p.1.name (p.1.row p.2))).map Tuple.row := by
  simp only [selected_map_row]
  rw [product_eq_map_row _ hne, tuples_filter records fun t r =>
    condition.all (·.admits scope t.name (t.row r))]

/-- After both filters the rows are those of the tuples that meet the condition. -/
theorem checked_product_eq {records : Table → List Record}
    (hfits : ∀ tuple ∈ tuples records tables, tuple.Fits) (hne : tables ≠ [])
    (condition : Option Condition) :
    checked .joined tables condition (product (tables.map fun t =>
        selected (tables.map Table.name) condition t ((records t).map t.row)))
      = ((tuples records tables).filter fun tuple => condition.all (·.meets tuple)).map
          Tuple.row := by
  have hscope : ∀ tuple ∈ tuples records tables,
      tables.map Table.name = tuple.map (·.1.name) :=
    fun tuple htuple => (map_name_of_mem_tuples htuple).symm
  -- the tuples that the first filter leaves
  obtain ⟨admits, hadmits⟩ : ∃ admits : Tuple → Bool, admits = fun tuple => tuple.all fun p =>
    condition.all (·.admits (tables.map Table.name) p.1.name (p.1.row p.2)) := ⟨_, rfl⟩
  rw [product_selected records _ hne, ← hadmits]
  cases condition with
  | none =>
      have hall : (tuples records tables).filter admits = tuples records tables := by
        simp [hadmits]
      have hmeets : (tuples records tables).filter (fun tuple =>
          (none : Option Condition).all (·.meets tuple)) = tuples records tables :=
        List.filter_eq_self.2 fun _ _ => rfl
      rw [hall, hmeets]
      rcases tables with _ | ⟨t, _ | ⟨u, rest⟩⟩ <;> rfl
  | some c =>
      simp only [Option.all_some] at hadmits ⊢
      have hleft : ∀ tuple ∈ tuples records tables, c.meets tuple = true →
          admits tuple = true := by
        intro tuple htuple hc
        rw [hadmits, List.all_eq_true, hscope tuple htuple]
        exact fun p hp => Condition.admits_of_meets (hfits tuple htuple) hp hc
      rcases tables with _ | ⟨t, _ | ⟨u, rest⟩⟩
      · exact absurd rfl hne
      · -- a single table, where the first filter is the condition already
        refine congrArg (List.map Tuple.row) (List.filter_congr fun tuple htuple => ?_)
        obtain ⟨⟨_, r⟩, rfl, rfl⟩ := List.map_eq_singleton_iff.1 (of_mem_tuples htuple).1
        rw [hadmits]
        exact (Bool.and_true _).trans (Condition.admits_eq_meets (hfits _ htuple) c)
      · have hfilter : checked .joined (t :: u :: rest) (some c)
            (((tuples records (t :: u :: rest)).filter admits).map Tuple.row)
              = (((tuples records (t :: u :: rest)).filter admits).map Tuple.row).filter
                (c.holds ((t :: u :: rest).map Table.name)) := rfl
        rw [hfilter, List.filter_map, List.filter_filter]
        refine congrArg (List.map Tuple.row) (List.filter_congr fun tuple htuple => ?_)
        rw [Function.comp_apply, hscope tuple htuple, Condition.holds_row (hfits tuple htuple)]
        cases hc : c.meets tuple with
        | false => rfl
        | true => exact hleft tuple htuple hc

end Query

namespace Database

/-- A joined query answers the requested fields of the tuples that meet its condition, in row-major
order. -/
theorem select_eq_tuples {db : Database} (hvalid : db.schema.validate = .ok ())
    (hmode : db.joinMode = .joined) {names : List String} (hne : names ≠ [])
    (hnodup : names.Nodup) {tables : List Table} (htables : db.tables names = .ok tables)
    {fields : List String} (hfields : Query.checkFields tables fields = .ok ())
    {files : FileTree} {sheets : Table → List (SheetNumber × Sheet)}
    (hsheets : ∀ t ∈ tables, t.sheets files = .ok (sheets t)) (condition : Option Condition) :
    ∃ records, db.select fields names condition files = .ok records ∧
      records.map (·.map some)
        = ((tuples (fun t => (sheets t).flatMap Prod.snd) tables).filter fun tuple =>
            condition.all (·.meets tuple)).map fun tuple => fields.map tuple.field? := by
  have hnames := map_name_of_tables htables
  have hnetables : tables ≠ [] := by
    rintro rfl
    exact hne hnames.symm
  have hfits : ∀ tuple ∈ tuples (fun t => (sheets t).flatMap Prod.snd) tables, tuple.Fits := by
    intro tuple htuple
    obtain ⟨hmap, hrecords⟩ := of_mem_tuples htuple
    have hmem : ∀ t r, (t, r) ∈ tuple → t ∈ tables := by
      intro t r h
      rw [← hmap]
      exact List.mem_map_of_mem h
    refine ⟨fun t r h => ?_, fun t r h => ?_, ?_⟩
    · exact proper_of_table? hvalid (table?_of_mem_tables htables (hmem t r h))
    · exact Table.width_of_sheets (hsheets t (hmem t r h)) r (hrecords t r h)
    · rw [← hnames, ← hmap, List.map_map] at hnodup
      exact hnodup
  have hselect : Query.select .joined tables fields condition files = _ :=
    Query.select_eq_answer .joined fields fun t ht => Table.rows_of_sheets (hsheets t ht)
  rw [Query.answer, hfields] at hselect
  rw [select, htables, hmode]
  refine ⟨_, hselect, ?_⟩
  rw [Query.checked_product_eq hfits hnetables, List.map_map, List.map_map]
  refine List.map_congr_left fun tuple htuple => ?_
  have hmem := List.mem_of_mem_filter htuple
  exact Query.project_row (hfits tuple hmem) (of_mem_tuples hmem).1 hfields

/-- Two beers and two brewers make four tuples, of which one meets the condition. -/
theorem sample_select_eq_tuples : ∃ records,
    sample.select ["brewer.name", "beer.style"] ["beer", "brewer"]
        (some (.and (.equals "beer" "name" "Orval") (.equals "brewer" "name" "Villers")))
        (runSteps sample.step [.insert "beer" ["Duvel", "Ale"],
          .insert "beer" ["Orval", "Trappist"], .insert "brewer" ["Moortgat"],
          .insert "brewer" ["Villers"]] (stateOf (sample.ensure FileTree.empty))).2
      = .ok records ∧ records.map (·.map some) = [[some "Villers", some "Trappist"]] := by
  have htables : sample.tables ["beer", "brewer"]
      = .ok [⟨"beer", sample.dir.entry "beer", ["beer_pk", "name", "style"]⟩,
          ⟨"brewer", sample.dir.entry "brewer", ["brewer_pk", "name"]⟩] := by decide +kernel
  have hsheets : ∀ t ∈ [(⟨"beer", sample.dir.entry "beer", ["beer_pk", "name", "style"]⟩ : Table),
      ⟨"brewer", sample.dir.entry "brewer", ["brewer_pk", "name"]⟩],
      t.sheets (runSteps sample.step [.insert "beer" ["Duvel", "Ale"],
          .insert "beer" ["Orval", "Trappist"], .insert "brewer" ["Moortgat"],
          .insert "brewer" ["Villers"]] (stateOf (sample.ensure FileTree.empty))).2
        = .ok (if t.name = "beer" then
            [(1, [["1", "Duvel", "Ale"], ["2", "Orval", "Trappist"]])]
          else [(1, [["1", "Moortgat"], ["2", "Villers"]])]) := by decide +kernel
  have hfields : Query.checkFields [⟨"beer", sample.dir.entry "beer", ["beer_pk", "name", "style"]⟩,
      ⟨"brewer", sample.dir.entry "brewer", ["brewer_pk", "name"]⟩] ["brewer.name", "beer.style"]
        = .ok () := by decide +kernel
  obtain ⟨records, hselect, hrecords⟩ := select_eq_tuples (by decide +kernel) rfl (by decide)
    (by decide) htables hfields hsheets
    (some (.and (.equals "beer" "name" "Orval") (.equals "brewer" "name" "Villers")))
  exact ⟨records, hselect, hrecords.trans (by decide +kernel)⟩

end Database

end SheetStore
