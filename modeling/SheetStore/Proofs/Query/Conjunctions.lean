import SheetStore.Proofs.Query.Reference

/-!
# Conditions without a disjunction

The two modes differ in the second filter, which a query in the mode `perTable` leaves out.  Where a
condition has no disjunction, there is nothing left for it to do: each comparison on a table was
checked when the rows of this table were filtered, and a leaf that fails in every reading has left
no row at all (`Condition.holds_of_admits`).  So both modes answer the same records
(`select_modes_agree`).

A table may be named more than once.  Then a row of the product shows the values of the last of its
records, but the filter of the table has seen each of them, so all of them have the value that the
condition asks for (`Tuple.get?_row_of_forall`).
-/

namespace SheetStore

/-! ## Rows of tuples that agree -/

/-- A value that the records of a table have in common is the value of the row, also if the table
has more than one record in the tuple. -/
theorem Tuple.get?_row_of_forall {tuple : Tuple} {table column value : String}
    (hproper : ∀ t r, (t, r) ∈ tuple → t.Proper)
    (hwidth : ∀ t r, (t, r) ∈ tuple → r.length = t.columns.length) (htable : '.' ∉ table.toList)
    (hvalue : ∀ t r, (t, r) ∈ tuple → t.name = table → t.value? r column = some value) :
    tuple.row.get? (qualified table column)
      = if table ∈ tuple.map (·.1.name) then some value else none := by
  induction tuple with
  | nil => rfl
  | cons first rest ih =>
      obtain ⟨t, r⟩ := first
      have hrest := ih (fun u q hmem => hproper u q (List.mem_cons_of_mem _ hmem))
        (fun u q hmem => hwidth u q (List.mem_cons_of_mem _ hmem))
        (fun u q hmem => hvalue u q (List.mem_cons_of_mem _ hmem))
      have hfirst := Table.get?_row (hproper t r List.mem_cons_self)
        (hwidth t r List.mem_cons_self) htable column
      rw [row, Row.get?_merge, hrest, hfirst, List.map_cons]
      by_cases hmore : table ∈ rest.map (·.1.name)
      · rw [if_pos hmore, Option.some_or, if_pos (List.mem_cons_of_mem _ hmore)]
      · rw [if_neg hmore, Option.none_or]
        by_cases hname : table = t.name
        · rw [if_pos hname, hvalue t r List.mem_cons_self hname.symm,
            if_pos (List.mem_cons.2 (.inl hname))]
        · rw [if_neg hname, if_neg fun hmem => (List.mem_cons.1 hmem).elim hname hmore]

/-! ## Conjunctions -/

namespace Condition

/-- Whether the condition has no disjunction in it. -/
def isConjunction : Condition → Bool
  | .equals _ _ _ => true
  | .malformed _ => true
  | .and left right => left.isConjunction && right.isConjunction
  | .or _ _ => false

/-- A conjunction holds on every row whose records were all admitted. -/
theorem holds_of_admits {tuple : Tuple} (hproper : ∀ t r, (t, r) ∈ tuple → t.Proper)
    (hwidth : ∀ t r, (t, r) ∈ tuple → r.length = t.columns.length) (hne : tuple ≠ [])
    {c : Condition} (hc : c.isConjunction = true)
    (hadmits : ∀ t r, (t, r) ∈ tuple →
      c.admits (tuple.map (·.1.name)) t.name (t.row r) = true) :
    c.holds (tuple.map (·.1.name)) tuple.row = true := by
  obtain ⟨⟨t, r⟩, hmem⟩ := List.exists_mem_of_ne_nil tuple hne
  induction c with
  | equals table column value =>
      -- the leaf stands in the reading of every record, so its table is in scope
      have hscope : table ∈ tuple.map (·.1.name) := by
        have hleaf := hadmits t r hmem
        rw [admits, Bool.and_eq_true] at hleaf
        exact List.contains_iff_mem.1 hleaf.1
      obtain ⟨⟨u, q⟩, humem, huname⟩ := List.mem_map.1 hscope
      have hpoint : '.' ∉ table.toList := huname ▸ (hproper u q humem).point_not_mem
      have hvalue : ∀ t r, (t, r) ∈ tuple → t.name = table → t.value? r column = some value := by
        rintro t r hmem rfl
        have hleaf := hadmits t r hmem
        rw [admits, bne_self_eq_false, Bool.false_or, Bool.and_eq_true, beq_iff_eq,
          Table.get?_row (hproper t r hmem) (hwidth t r hmem) hpoint, if_pos rfl] at hleaf
        exact hleaf.2
      rw [holds, Tuple.get?_row_of_forall hproper hwidth hpoint hvalue, if_pos hscope,
        List.contains_iff_mem.2 hscope]
      exact beq_self_eq_true _
  | malformed text => cases hadmits t r hmem
  | and left right ihl ihr =>
      rw [isConjunction, Bool.and_eq_true] at hc
      simp only [admits, Bool.and_eq_true] at hadmits
      rw [holds, ihl hc.1 fun t r hmem => (hadmits t r hmem).1,
        ihr hc.2 fun t r hmem => (hadmits t r hmem).2]
      rfl
  | or left right => cases hc

end Condition

/-! ## Both modes -/

namespace Query

variable {tables : List Table} {records : Table → List Record}

/-- The second filter may be left out where it removes nothing. -/
theorem checked_of_forall (mode : JoinMode) {condition : Option Condition} {rows : List Row}
    (h : ∀ c ∈ condition, ∀ row ∈ rows, c.holds (tables.map Table.name) row = true) :
    checked mode tables condition rows = rows := by
  unfold checked
  split
  · rfl
  · exact List.filter_eq_self.2 (h _ rfl)
  · rfl

/-- A conjunction holds on the product of the rows that it admits. -/
theorem holds_of_mem_product {condition : Option Condition} (hproper : ∀ t ∈ tables, t.Proper)
    (hwidth : ∀ t ∈ tables, ∀ r ∈ records t, r.length = t.columns.length)
    (hcondition : ∀ c ∈ condition, c.isConjunction = true) :
    ∀ c ∈ condition, ∀ row ∈ product (tables.map fun t =>
      selected (tables.map Table.name) condition t ((records t).map t.row)),
      c.holds (tables.map Table.name) row = true := by
  rintro c rfl row hrow
  by_cases hne : tables = []
  · subst hne
    cases hrow
  rw [product_selected records _ hne] at hrow
  obtain ⟨tuple, htuple, rfl⟩ := List.mem_map.1 hrow
  obtain ⟨htuple, hadmitted⟩ := List.mem_filter.1 htuple
  obtain ⟨htables, hrecords⟩ := of_mem_tuples htuple
  have hmem : ∀ t r, (t, r) ∈ tuple → t ∈ tables := fun t r => mem_tables_of_mem_tuples htuple
  rw [← map_name_of_mem_tuples htuple] at hadmitted ⊢
  refine Condition.holds_of_admits (fun t r h => hproper t (hmem t r h))
    (fun t r h => hwidth t (hmem t r h) r (hrecords t r h)) ?_
    (hcondition c rfl) fun t r h => List.all_eq_true.1 hadmitted (t, r) h
  rintro rfl
  exact hne htables.symm

end Query

namespace Database

/-- A query whose condition has no disjunction answers the same records in both modes. -/
theorem select_modes_agree {db : Database} (hvalid : db.schema.validate = .ok ())
    {names : List String} {tables : List Table} (htables : db.tables names = .ok tables)
    {fields : List String} (hfields : Query.checkFields tables fields = .ok ()) {files : FileTree}
    (hsheets : ∀ t ∈ tables, ∃ sheets, t.sheets files = .ok sheets)
    {condition : Option Condition} (hcondition : ∀ c ∈ condition, c.isConjunction = true) :
    ∃ records, Query.select .perTable tables fields condition files = .ok records ∧
      Query.select .joined tables fields condition files = .ok records := by
  choose! sheets hsheets using hsheets
  have hrows : ∀ t ∈ tables, t.rows files = .ok (((sheets t).flatMap Prod.snd).map t.row) :=
    fun t ht => Table.rows_of_sheets (hsheets t ht)
  have hanswer (mode : JoinMode) : Query.select mode tables fields condition files
      = .ok ((product (tables.map fun t => Query.selected (tables.map Table.name) condition t
          (((sheets t).flatMap Prod.snd).map t.row))).map (Query.project fields)) := by
    have hchecked := Query.checked_of_forall mode (Query.holds_of_mem_product
      (fun t ht => proper_of_table? hvalid (table?_of_mem_tables htables ht))
      (fun t ht => Table.width_of_sheets (hsheets t ht)) hcondition)
    rw [Query.select_eq_answer mode fields hrows, Query.answer, hfields]
    exact congrArg (fun rows : List Row => Except.ok (rows.map (Query.project fields))) hchecked
  exact ⟨_, hanswer .perTable, hanswer .joined⟩

/-- A query that names the beers twice.  Of the four choices of two beers one has the wanted beer in
both places, and it is answered in either mode. -/
theorem sample_select_modes_agree :
    let tables := [sampleBeer, sampleBrewer, sampleBeer]
    let fields := ["brewer.name", "beer.style"]
    let condition :=
      some (.and (.equals "beer" "name" "Orval") (.equals "brewer" "name" "Villers"))
    let files := (runSteps sample.step [.insert "beer" ["Duvel", "Ale"],
      .insert "beer" ["Orval", "Trappist"], .insert "brewer" ["Villers"]]
      (stateOf (sample.ensure FileTree.empty))).2
    ∃ records, Query.select .perTable tables fields condition files = .ok records ∧
      Query.select .joined tables fields condition files = .ok records ∧
      records = [["Villers", "Trappist"]] := by
  intro tables fields condition files
  have htables : sample.tables ["beer", "brewer", "beer"] = .ok tables := by decide +kernel
  have hfields : Query.checkFields tables fields = .ok () := by decide +kernel
  have hsheets : ∀ t ∈ tables, t.sheets files = .ok (if t.name = "beer"
      then [(1, [["1", "Duvel", "Ale"], ["2", "Orval", "Trappist"]])]
      else [(1, [["1", "Villers"]])]) := by
    decide +kernel
  have hcondition : ∀ c ∈ condition, c.isConjunction = true :=
    fun c hc => Option.some.inj hc ▸ rfl
  obtain ⟨records, hperTable, hjoined⟩ := select_modes_agree validate_sample htables hfields
    (fun t ht => ⟨_, hsheets t ht⟩) hcondition
  refine ⟨records, hperTable, hjoined, ?_⟩
  have hanswer : Query.select .joined tables fields condition files
      = .ok [["Villers", "Trappist"]] := by decide +kernel
  exact Except.ok.inj (hjoined.symm.trans hanswer)

end Database

end SheetStore
