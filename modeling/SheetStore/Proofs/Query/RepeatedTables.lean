import SheetStore.Proofs.Query.Reference
import SheetStore.Proofs.Query.TableOrder

/-!
# Tables that are named more than once

A query may name a table several times.  A tuple then has several records of it, and its row shows
the values of the last of them: the others are *hidden* (`Tuple.hidden`, `Tuple.shown`).  The shown
records are of tables with different names, and the row has their values (`Tuple.get?_row_shown`), so
whether the condition holds on the row depends on them alone.

The first filter does not know which records will be hidden.  It asks the condition of every record,
and on a hidden one the answer says nothing about the row.  So a joined query answers those rows of
the whole product on which the condition holds and whose hidden records are admitted too, and it
answers all rows on which the condition holds exactly if it admits the hidden records of each of
them (`Database.select_repeated_tables`).  Where the condition compares no table that is named twice
this is so, since a comparison on another table admits every record.
-/

namespace SheetStore

/-! ## Hidden and shown records -/

namespace Tuple

/-- The records after which no record of the same table comes. -/
def shown : Tuple → Tuple
  | [] => []
  | (t, r) :: rest => if t.name ∈ rest.map (·.1.name) then shown rest else (t, r) :: shown rest

/-- The records after which another record of the same table comes. -/
def hidden : Tuple → Tuple
  | [] => []
  | (t, r) :: rest => if t.name ∈ rest.map (·.1.name) then (t, r) :: hidden rest else hidden rest

/-- Records of proper tables, where a name stands for one table. -/
structure Consistent (tuple : Tuple) : Prop where
  /-- The tables are proper. -/
  proper : ∀ t r, (t, r) ∈ tuple → t.Proper
  /-- Each record has a value per column. -/
  width : ∀ t r, (t, r) ∈ tuple → r.length = t.columns.length
  /-- Tables with one name are the same. -/
  eq_of_name : ∀ t r u q, (t, r) ∈ tuple → (u, q) ∈ tuple → t.name = u.name → t = u

variable {tuple : Tuple}

theorem Consistent.tail {t : Table} {r : Record} (h : Consistent ((t, r) :: tuple)) :
    Consistent tuple where
  proper u q hmem := h.proper u q (List.mem_cons_of_mem _ hmem)
  width u q hmem := h.width u q (List.mem_cons_of_mem _ hmem)
  eq_of_name u q v s hu hv := h.eq_of_name u q v s (List.mem_cons_of_mem _ hu)
    (List.mem_cons_of_mem _ hv)

theorem mem_of_mem_shown {p : Table × Record} (h : p ∈ tuple.shown) : p ∈ tuple := by
  induction tuple with
  | nil => exact h
  | cons first rest ih =>
      obtain ⟨t, r⟩ := first
      rw [shown] at h
      split at h
      · exact List.mem_cons_of_mem _ (ih h)
      · rcases List.mem_cons.1 h with rfl | h
        · exact List.mem_cons_self
        · exact List.mem_cons_of_mem _ (ih h)

/-- A record is shown of every table. -/
theorem mem_names_shown (tuple : Tuple) (name : String) :
    name ∈ tuple.shown.map (·.1.name) ↔ name ∈ tuple.map (·.1.name) := by
  induction tuple with
  | nil => rfl
  | cons first rest ih =>
      obtain ⟨t, r⟩ := first
      rw [shown]
      split
      · rename_i hmem
        rw [ih, List.map_cons, List.mem_cons, or_iff_right_of_imp]
        rintro rfl
        exact hmem
      · rw [List.map_cons, List.map_cons, List.mem_cons, List.mem_cons, ih]

/-- At most one record is shown of a table. -/
theorem Consistent.fits_shown (h : tuple.Consistent) : tuple.shown.Fits := by
  refine ⟨fun t r hmem => h.proper t r (mem_of_mem_shown hmem),
    fun t r hmem => h.width t r (mem_of_mem_shown hmem), ?_⟩
  clear h
  induction tuple with
  | nil => exact List.nodup_nil
  | cons first rest ih =>
      obtain ⟨t, r⟩ := first
      rw [shown]
      split
      · exact ih
      · rename_i hnot
        exact List.nodup_cons.2 ⟨fun hmem => hnot ((mem_names_shown rest t.name).1 hmem), ih⟩

/-- The records are the hidden and the shown ones. -/
theorem all_eq_hidden_and_shown (p : Table × Record → Bool) (tuple : Tuple) :
    tuple.all p = (tuple.hidden.all p && tuple.shown.all p) := by
  induction tuple with
  | nil => rfl
  | cons first rest ih =>
      obtain ⟨t, r⟩ := first
      rw [hidden, shown, List.all_cons, ih]
      split
      · rw [List.all_cons, Bool.and_assoc]
      · rw [List.all_cons, Bool.and_left_comm]

/-- A table with a hidden record has two records at least. -/
theorem two_le_count_of_mem_hidden {p : Table × Record} (h : p ∈ tuple.hidden) :
    2 ≤ (tuple.map (·.1.name)).count p.1.name := by
  induction tuple with
  | nil => cases h
  | cons first rest ih =>
      obtain ⟨t, r⟩ := first
      rw [List.map_cons, List.count_cons]
      rw [hidden] at h
      split at h
      · rename_i hmem
        rcases List.mem_cons.1 h with rfl | h
        · have hrest := List.count_pos_iff.2 hmem
          rw [if_pos (beq_self_eq_true _)]
          exact Nat.succ_le_succ hrest
        · exact (ih h).trans (Nat.le_add_right _ _)
      · exact (ih h).trans (Nat.le_add_right _ _)

/-- The row of a tuple has the values of the shown records. -/
theorem get?_row_shown (h : tuple.Consistent) {table : String} (htable : '.' ∉ table.toList)
    (column : String) :
    tuple.row.get? (qualified table column) = tuple.shown.row.get? (qualified table column) := by
  induction tuple with
  | nil => rfl
  | cons first rest ih =>
      obtain ⟨t, r⟩ := first
      have hrow := Table.get?_row (h.proper t r List.mem_cons_self)
        (h.width t r List.mem_cons_self) htable column
      rw [row, Row.get?_merge, ih h.tail, shown]
      split
      · rename_i hmem
        rw [hrow]
        split
        · -- the record of the same table that is shown has the same columns
          rename_i hname
          obtain ⟨⟨u, q⟩, hu, huname⟩ := List.mem_map.1 ((mem_names_shown rest t.name).2 hmem)
          have hfits := h.tail.fits_shown
          obtain rfl := h.eq_of_name u q t r (List.mem_cons_of_mem _ (mem_of_mem_shown hu))
            List.mem_cons_self huname
          rw [get?_row hfits htable, hname, value?_of_mem hfits hu]
          by_cases hcolumn : column ∈ u.columns
          · have hsome := Table.isSome_value? (hfits.width u q hu) hcolumn
            rw [Option.or_of_isSome hsome]
          · rw [Table.value?_eq_none hcolumn, Table.value?_eq_none hcolumn, Option.or_none]
        · rw [Option.or_none]
      · rw [row, Row.get?_merge]

end Tuple

/-! ## The two filters -/

namespace Condition

variable {tuple : Tuple}

/-- On the row of a tuple a condition holds if the shown records meet it. -/
theorem holds_eq_meets_shown (h : tuple.Consistent) (c : Condition) :
    c.holds (tuple.map (·.1.name)) tuple.row = c.meets tuple.shown := by
  rw [← holds_row h.fits_shown c, c.holds_of_mem_iff (Tuple.mem_names_shown tuple)]
  refine (isReading_holds _ _).congr (isReading_holds _ _) (fun table column value => ?_) c
  rw [holds, holds]
  by_cases hmem : table ∈ tuple.map (·.1.name)
  · obtain ⟨⟨t, r⟩, hp, rfl⟩ := List.mem_map.1 hmem
    rw [Tuple.get?_row_shown h (h.proper t r hp).point_not_mem]
  · simp [hmem]

/-- Where the condition holds on the row, the shown records are admitted. -/
theorem admits_of_mem_shown (h : tuple.Consistent) {c : Condition}
    (hc : c.holds (tuple.map (·.1.name)) tuple.row = true) {t : Table} {r : Record}
    (hmem : (t, r) ∈ tuple.shown) :
    c.admits (tuple.map (·.1.name)) t.name (t.row r) = true := by
  rw [holds_eq_meets_shown h] at hc
  rw [← c.admits_of_mem_iff (Tuple.mem_names_shown tuple)]
  exact admits_of_meets h.fits_shown hmem hc

/-- The tables that the condition compares. -/
def tables : Condition → List String
  | .equals table _ _ => [table]
  | .malformed _ => []
  | .and left right => left.tables ++ right.tables
  | .or left right => left.tables ++ right.tables

/-- Where the condition holds, it admits every row of a table that it does not compare. -/
theorem admits_of_not_mem_tables {scope : List String} {row : Row} {current : String}
    (other : Row) {c : Condition} (hc : c.holds scope row = true) (hcurrent : current ∉ c.tables) :
    c.admits scope current other = true := by
  induction c with
  | equals table column value =>
      rw [holds, Bool.and_eq_true] at hc
      have hne : table ≠ current := fun heq => hcurrent (List.mem_singleton.2 heq.symm)
      rw [admits, hc.1, Bool.true_and, bne_iff_ne.2 hne, Bool.true_or]
  | malformed text => cases hc
  | and left right ihl ihr =>
      rw [tables, List.mem_append, not_or] at hcurrent
      rw [holds, Bool.and_eq_true] at hc
      rw [admits, ihl hc.1 hcurrent.1, ihr hc.2 hcurrent.2, Bool.and_self]
  | or left right ihl ihr =>
      rw [tables, List.mem_append, not_or] at hcurrent
      rw [holds, Bool.or_eq_true] at hc
      rw [admits, Bool.or_eq_true]
      exact hc.imp (ihl · hcurrent.1) (ihr · hcurrent.2)

end Condition

namespace Query

variable {tables : List Table} {condition : Option Condition}

/-- The fields of the rows of the whole product on which the condition holds. -/
def unfilteredAnswer (tables : List Table) (fields : List String) (condition : Option Condition)
    (rows : Table → List Row) : List Record :=
  ((product (tables.map rows)).filter fun row =>
    condition.all (·.holds (tables.map Table.name) row)).map (project fields)

/-- The tuples on whose rows the condition holds. -/
def wanted (scope : List String) (condition : Option Condition) (all : List Tuple) : List Tuple :=
  all.filter fun tuple => condition.all (·.holds scope tuple.row)

/-- Whether the condition admits the hidden records of a tuple. -/
def admitsHidden (scope : List String) (condition : Option Condition) (tuple : Tuple) : Bool :=
  tuple.hidden.all fun p => condition.all (·.admits scope p.1.name (p.1.row p.2))

theorem unfilteredAnswer_eq (records : Table → List Record) (hne : tables ≠ [])
    (fields : List String) (condition : Option Condition) :
    unfilteredAnswer tables fields condition (fun t => (records t).map t.row)
      = (wanted (tables.map Table.name) condition (tuples records tables)).map fun tuple =>
          project fields tuple.row := by
  rw [unfilteredAnswer, product_eq_map_row records hne, List.filter_map, List.map_map]
  rfl

/-- In the mode `joined` the condition is asked of all rows of the product.  With a single table the
first filter has done so. -/
theorem checked_joined (tables : List Table) (condition : Option Condition)
    (rows : Table → List Row) :
    checked .joined tables condition (product (tables.map fun t =>
        selected (tables.map Table.name) condition t (rows t)))
      = (product (tables.map fun t =>
          selected (tables.map Table.name) condition t (rows t))).filter fun row =>
            condition.all (·.holds (tables.map Table.name) row) := by
  cases condition with
  | none =>
      rw [checked_eq_ite, ite_self]
      exact (List.filter_eq_self.2 fun _ _ => rfl).symm
  | some c =>
      rw [checked_eq_ite]
      split
      · rename_i hlength
        obtain ⟨t, rfl⟩ := List.length_eq_one_iff.1 hlength
        refine (List.filter_eq_self.2 fun row hrow => ?_).symm
        exact (Condition.admits_eq_holds t.name row c).symm.trans (List.mem_filter.1 hrow).2
      · rfl

/-- The rows that pass both filters are those of the wanted tuples whose hidden records are
admitted. -/
theorem filter_product_selected {records : Table → List Record}
    (hconsistent : ∀ tuple ∈ tuples records tables, tuple.Consistent) (hne : tables ≠ [])
    (condition : Option Condition) :
    (product (tables.map fun t =>
        selected (tables.map Table.name) condition t ((records t).map t.row))).filter (fun row =>
          condition.all (·.holds (tables.map Table.name) row))
      = ((wanted (tables.map Table.name) condition (tuples records tables)).filter
          (admitsHidden (tables.map Table.name) condition)).map Tuple.row := by
  rw [product_selected records _ hne, wanted, List.filter_map, List.filter_filter,
    List.filter_filter]
  refine congrArg (List.map Tuple.row) (List.filter_congr fun tuple htuple => ?_)
  rw [← map_name_of_mem_tuples htuple, Function.comp_apply, Tuple.all_eq_hidden_and_shown,
    ← admitsHidden, Bool.and_comm, Bool.and_assoc]
  refine congrArg _ ?_
  cases condition with
  | none => simp
  | some c =>
      cases hc : c.holds (tuple.map (·.1.name)) tuple.row with
      | false => simp [hc]
      | true =>
          have hshown : tuple.shown.all (fun p => (some c).all
              (·.admits (tuple.map (·.1.name)) p.1.name (p.1.row p.2))) = true :=
            List.all_eq_true.2 fun p hp =>
              Condition.admits_of_mem_shown (hconsistent tuple htuple) hc hp
          rw [hshown]
          simp [hc]

/-- If the condition compares no table that is named twice, it admits all that is hidden in the
tuples on which it holds. -/
theorem admitsHidden_of_count {scope : List String} {all : List Tuple}
    (hscope : ∀ tuple ∈ all, tuple.map (·.1.name) = scope)
    (hcount : ∀ c ∈ condition, ∀ name ∈ c.tables, scope.count name ≤ 1) :
    ∀ tuple ∈ wanted scope condition all, admitsHidden scope condition tuple = true := by
  intro tuple htuple
  obtain ⟨hmem, hholds⟩ := List.mem_filter.1 htuple
  refine List.all_eq_true.2 fun p hp => ?_
  cases condition with
  | none => rfl
  | some c =>
      refine Condition.admits_of_not_mem_tables _ hholds fun hcompared => ?_
      have hone := hcount c rfl _ hcompared
      have htwo := Tuple.two_le_count_of_mem_hidden hp
      rw [hscope tuple hmem] at htwo
      exact absurd hone (Nat.not_le.2 htwo)

end Query

/-! ## What a query over repeated tables answers -/

/-- As many items are left as there are only if none was left out. -/
theorem map_filter_eq_map_iff {items : List α} {kept : α → Bool} {f : α → β} :
    (items.filter kept).map f = items.map f ↔ ∀ a ∈ items, kept a = true := by
  constructor
  · intro heq
    have hlength := congrArg List.length heq
    rw [List.length_map, List.length_map] at hlength
    exact List.length_filter_eq_length_iff.1 hlength
  · intro hall
    rw [List.filter_eq_self.2 hall]

namespace Database

/-- The tuples of tables that are named in a query are consistent. -/
theorem consistent_of_mem_tuples {db : Database} (hvalid : db.schema.validate = .ok ())
    {names : List String} {tables : List Table} (htables : db.tables names = .ok tables)
    {files : FileTree} {sheets : Table → List (SheetNumber × Sheet)}
    (hsheets : ∀ t ∈ tables, t.sheets files = .ok (sheets t)) :
    ∀ tuple ∈ tuples (fun t => (sheets t).flatMap Prod.snd) tables, tuple.Consistent := by
  intro tuple htuple
  have hrecords := (of_mem_tuples htuple).2
  have hmem : ∀ t r, (t, r) ∈ tuple → t ∈ tables := fun t r => mem_tables_of_mem_tuples htuple
  refine ⟨fun t r h => ?_, fun t r h => ?_, fun t r u q ht hu hname => ?_⟩
  · exact proper_of_table? hvalid (table?_of_mem_tables htables (hmem t r h))
  · exact Table.width_of_sheets (hsheets t (hmem t r h)) r (hrecords t r h)
  · have htable := table?_of_mem_tables htables (hmem t r ht)
    rw [hname, table?_of_mem_tables htables (hmem u q hu)] at htable
    exact (Option.some.inj htable).symm

section Repeated

variable {db : Database} (hvalid : db.schema.validate = .ok ()) (hmode : db.joinMode = .joined)
  {names : List String} (hne : names ≠ []) {tables : List Table}
  (htables : db.tables names = .ok tables) {fields : List String}
  (hfields : Query.checkFields tables fields = .ok ()) {files : FileTree}
  {sheets : Table → List (SheetNumber × Sheet)}
  (hsheets : ∀ t ∈ tables, t.sheets files = .ok (sheets t)) (condition : Option Condition)

include hvalid hmode hne htables hfields hsheets

/-- A joined query answers the wanted tuples whose hidden records are admitted. -/
theorem select_eq_filter_wanted : db.select fields names condition files
    = .ok (((Query.wanted names condition (tuples (fun t => (sheets t).flatMap Prod.snd)
        tables)).filter (Query.admitsHidden names condition)).map fun tuple =>
          Query.project fields tuple.row) := by
  have hnames := map_name_of_tables htables
  have hnetables : tables ≠ [] := by
    rintro rfl
    exact hne hnames.symm
  have hanswer : Query.select .joined tables fields condition files = _ :=
    Query.select_eq_answer .joined fields fun t ht => Table.rows_of_sheets (hsheets t ht)
  have hchecked := (Query.checked_joined tables condition fun t =>
      ((sheets t).flatMap Prod.snd).map t.row).trans
    (Query.filter_product_selected (consistent_of_mem_tuples hvalid htables hsheets) hnetables
      condition)
  rw [hnames] at hchecked
  rw [Query.answer, hfields, hnames] at hanswer
  rw [select, htables, hmode]
  refine hanswer.trans (congrArg Except.ok ?_)
  exact (congrArg (List.map (Query.project fields)) hchecked).trans List.map_map

/-- A joined query, whose tables may be repeated, answers the rows on which its condition holds
and whose hidden records are admitted.  These are all rows on which the condition holds exactly if
none of them has a hidden record that is filtered out, and so where the condition compares no table
that is named twice. -/
theorem select_repeated_tables :
    let records := fun t => (sheets t).flatMap Prod.snd
    let wanted := Query.wanted names condition (tuples records tables)
    let full := Query.unfilteredAnswer tables fields condition fun t => (records t).map t.row
    db.select fields names condition files
        = .ok ((wanted.filter (Query.admitsHidden names condition)).map fun tuple =>
            Query.project fields tuple.row) ∧
      (db.select fields names condition files = .ok full ↔
        ∀ tuple ∈ wanted, Query.admitsHidden names condition tuple = true) ∧
      ((∀ c ∈ condition, ∀ name ∈ c.tables, names.count name ≤ 1) →
        db.select fields names condition files = .ok full) := by
  intro records wanted full
  have hnames := map_name_of_tables htables
  have hnetables : tables ≠ [] := by
    rintro rfl
    exact hne hnames.symm
  have hselect := select_eq_filter_wanted hvalid hmode hne htables hfields hsheets condition
  have hfull : full = wanted.map fun tuple => Query.project fields tuple.row := by
    have := Query.unfilteredAnswer_eq records hnetables fields condition
    rwa [hnames] at this
  have hiff : db.select fields names condition files = .ok full ↔
      ∀ tuple ∈ wanted, Query.admitsHidden names condition tuple = true := by
    rw [hselect, hfull, Except.ok.injEq]
    exact map_filter_eq_map_iff
  refine ⟨hselect, hiff, fun hcount => hiff.2 (Query.admitsHidden_of_count ?_ hcount)⟩
  exact fun tuple htuple => (map_name_of_mem_tuples htuple).trans hnames

end Repeated

/-- A query that names the beers twice and compares brewers alone.  No row is lost: each of the four
choices of two beers is answered, with the style of the second. -/
theorem sample_select_repeated_tables :
    let files := (runSteps sample.step [.insert "beer" ["Duvel", "Ale"],
      .insert "beer" ["Orval", "Trappist"], .insert "brewer" ["Villers"]]
      (stateOf (sample.ensure FileTree.empty))).2
    sample.select ["brewer.name", "beer.style"] ["beer", "brewer", "beer"]
        (some (.equals "brewer" "name" "Villers")) files
      = .ok [["Villers", "Ale"], ["Villers", "Trappist"], ["Villers", "Ale"],
          ["Villers", "Trappist"]] := by
  intro files
  have htables : sample.tables ["beer", "brewer", "beer"]
      = .ok [sampleBeer, sampleBrewer, sampleBeer] := by
    decide +kernel
  have hfields : Query.checkFields [sampleBeer, sampleBrewer, sampleBeer]
      ["brewer.name", "beer.style"] = .ok () := by
    decide +kernel
  have hsheets : ∀ t ∈ [sampleBeer, sampleBrewer, sampleBeer], t.sheets files
      = .ok (if t.name = "beer" then [(1, [["1", "Duvel", "Ale"], ["2", "Orval", "Trappist"]])]
        else [(1, [["1", "Villers"]])]) := by
    decide +kernel
  have hcount : ∀ c ∈ some (Condition.equals "brewer" "name" "Villers"), ∀ name ∈ c.tables,
      ["beer", "brewer", "beer"].count name ≤ 1 := by
    simp [Condition.tables]
  obtain ⟨-, -, hfull⟩ := select_repeated_tables validate_sample rfl (by simp) htables hfields
    hsheets (some (.equals "brewer" "name" "Villers"))
  rw [hfull hcount]
  decide +kernel

/-- The condition holds on the two rows that show the first beer, but in one of them the second beer
is hidden and is filtered out, so one row is answered. -/
theorem sample_filter_drops_row :
    let files := (runSteps sample.step [.insert "beer" ["Duvel", "Ale"],
      .insert "beer" ["Orval", "Trappist"]] (stateOf (sample.ensure FileTree.empty))).2
    let records := [["1", "Duvel", "Ale"], ["2", "Orval", "Trappist"]]
    let condition := some (Condition.equals "beer" "name" "Duvel")
    sample.tables ["beer", "beer"] = .ok [sampleBeer, sampleBeer] ∧
      Query.checkFields [sampleBeer, sampleBeer] ["beer.name"] = .ok () ∧
      sampleBeer.sheets files = .ok [(1, records)] ∧
      sample.select ["beer.name"] ["beer", "beer"] condition files = .ok [["Duvel"]] ∧
      Query.unfilteredAnswer [sampleBeer, sampleBeer] ["beer.name"] condition
          (fun t => records.map t.row)
        = [["Duvel"], ["Duvel"]] := by
  decide +kernel

end Database

end SheetStore
