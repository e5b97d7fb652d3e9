import Mathlib.Data.Multiset.Bind
import SheetStore.Proofs.Query.Answers
import SheetStore.Proofs.Query.Reordering

/-!
# The order of the tables

A query may list its tables in any order: it answers the same records in some order
(`Database.select_permuted_tables`).  What carries this is that a row counts by its values alone.
Filters and projections see nothing else of a row, so lists of rows are compared up to order and up
to the bindings that no name reaches (`SameRows`).

Rows of different tables have no name in common, so it does not matter which of them is merged on
top (`SameRows.pairs_comm`).  Rows of one table have all names in common and the later one hides the
other, but there the two tables that change places are the same.  Every permutation is made of such
exchanges of neighbours, and so the product keeps its rows (`SameRows.foldr_pairs`).
-/

namespace SheetStore

/-! ## Rows by their values -/

/-- No name has a value in both rows. -/
def Row.Apart (left right : Row) : Prop := ∀ name, left.get? name = none ∨ right.get? name = none

/-- Of rows that are apart, either may be merged on top. -/
theorem Row.Apart.get?_merge_comm {left right : Row} (h : left.Apart right) :
    (left.merge right).get? = (right.merge left).get? := by
  funext name
  rw [get?_merge, get?_merge]
  rcases h name with hnone | hnone
  · rw [hnone, Option.or_none, Option.none_or]
  · rw [hnone, Option.or_none, Option.none_or]

/-- The lists have the same rows in some order, where rows with the same values are the same. -/
def SameRows (left right : List Row) : Prop := (left.map Row.get?).Perm (right.map Row.get?)

namespace SameRows

variable {left right a a' b b' : List Row}

theorem refl (rows : List Row) : SameRows rows rows := List.Perm.refl _

theorem trans {middle : List Row} (h : SameRows left middle) (h' : SameRows middle right) :
    SameRows left right := List.Perm.trans h h'

/-- What depends on the values of a row alone has the same results. -/
theorem map [Nonempty α] {f : Row → α} (hf : f.FactorsThrough Row.get?)
    (h : SameRows left right) : (left.map f).Perm (right.map f) := by
  obtain ⟨view, rfl⟩ := (Function.factorsThrough_iff f).1 hf
  rw [← List.map_map, ← List.map_map]
  exact List.Perm.map view h

theorem filter {p : Row → Bool} (hp : p.FactorsThrough Row.get?) (h : SameRows left right) :
    SameRows (left.filter p) (right.filter p) := by
  obtain ⟨view, rfl⟩ := (Function.factorsThrough_iff p).1 hp
  rw [SameRows, ← List.filter_map, ← List.filter_map]
  exact List.Perm.filter view h

/-! ## Products -/

theorem pairs (ha : SameRows a a') (hb : SameRows b b') :
    SameRows (pairs a b) (pairs a' b') := by
  have hview : ∀ l r : List Row, (SheetStore.pairs l r).map Row.get?
      = (l.map Row.get?).flatMap fun f => (r.map Row.get?).map fun g name =>
          (g name).or (f name) := by
    intro l r
    simp only [SheetStore.pairs, List.map_flatMap, List.flatMap_map, List.map_map]
    refine congrArg (l.flatMap ·) (funext fun x => List.map_congr_left fun y _ => ?_)
    exact funext (Row.get?_merge x y)
  rw [SameRows, hview, hview]
  exact List.Perm.flatMap ha fun f _ => List.Perm.map _ hb

/-- The product of lists whose rows are apart may be formed in either order. -/
theorem pairs_comm (h : ∀ l ∈ a, ∀ r ∈ b, l.Apart r) :
    SameRows (SheetStore.pairs a b) (SheetStore.pairs b a) := by
  have hswapped : (SheetStore.pairs b a).map Row.get?
      = b.flatMap fun r => a.map fun l => (l.merge r).get? := by
    rw [SheetStore.pairs, List.map_flatMap]
    refine List.flatMap_congr fun r hr => ?_
    rw [List.map_map]
    exact List.map_congr_left fun l hl => (h l hl r hr).get?_merge_comm.symm
  have hview : (SheetStore.pairs a b).map Row.get?
      = a.flatMap fun l => b.map fun r => (l.merge r).get? := by
    simp only [SheetStore.pairs, List.map_flatMap, List.map_map, Function.comp_def]
  have hcomm := Multiset.bind_map_comm (a : Multiset Row) (b : Multiset Row)
    (f := fun l r => (l.merge r).get?)
  simp only [Multiset.map_coe] at hcomm
  rw [SameRows, hswapped, hview, ← Multiset.coe_eq_coe, ← Multiset.coe_bind, ← Multiset.coe_bind]
  exact hcomm

/-- Neighbours whose rows are apart may change places. -/
theorem pairs_left_comm (h : ∀ l ∈ a, ∀ r ∈ b, l.Apart r) (rest : List Row) :
    SameRows (SheetStore.pairs a (SheetStore.pairs b rest))
      (SheetStore.pairs b (SheetStore.pairs a rest)) := by
  rw [← pairs_assoc, ← pairs_assoc]
  exact (pairs_comm h).pairs (refl rest)

/-- A product keeps its rows when its factors are permuted, if different factors are apart. -/
theorem foldr_pairs {factors factors' : List ι} (sets : ι → List Row)
    (h : factors.Perm factors')
    (hapart : ∀ x ∈ factors, ∀ y ∈ factors, x ≠ y → ∀ l ∈ sets x, ∀ r ∈ sets y, l.Apart r) :
    SameRows ((factors.map sets).foldr SheetStore.pairs [⟨[]⟩])
      ((factors'.map sets).foldr SheetStore.pairs [⟨[]⟩]) := by
  induction h with
  | nil => exact refl _
  | cons x _ ih =>
      have hrest := ih fun y hy z hz =>
        hapart y (List.mem_cons_of_mem _ hy) z (List.mem_cons_of_mem _ hz)
      exact (refl (sets x)).pairs hrest
  | swap x y rest =>
      by_cases heq : y = x
      · rw [heq]
        exact refl _
      · exact pairs_left_comm
          (hapart y List.mem_cons_self x (List.mem_cons_of_mem _ List.mem_cons_self) heq) _
  | trans hfirst _ ihfirst ihsecond =>
      refine (ihfirst hapart).trans (ihsecond fun x hx y hy => ?_)
      exact hapart x (hfirst.mem_iff.2 hx) y (hfirst.mem_iff.2 hy)

end SameRows

/-! ## Filters and fields -/

/-- Whether a condition holds on a row depends on the values of the row alone. -/
theorem Condition.factorsThrough_holds (scope : List String) (c : Condition) :
    Function.FactorsThrough (c.holds scope ·) Row.get? := by
  intro row other h
  refine (isReading_holds scope row).congr (isReading_holds scope other) (fun _ _ _ => ?_) c
  rw [holds, holds, h]

/-! ## Rows of tables -/

namespace Table

variable {t u : Table}

/-- The row of a record has values under the name of its table alone. -/
theorem exists_qualified_of_get?_row {record : Record} {name value : String}
    (h : (t.row record).get? name = some value) : ∃ column, name = qualified t.name column := by
  obtain ⟨column, -, hname⟩ := List.mem_map.1 (List.of_mem_zip (mem_zip_of_get?_row h)).1
  exact ⟨column, hname.symm⟩

/-- Rows of tables with different names are apart. -/
theorem apart_row (ht : t.Proper) (hu : u.Proper) (hne : t.name ≠ u.name) (r s : Record) :
    (t.row r).Apart (u.row s) := by
  intro name
  cases hleft : (t.row r).get? name with
  | none => exact .inl rfl
  | some value =>
      right
      cases hright : (u.row s).get? name with
      | none => rfl
      | some other =>
          obtain ⟨column, hname⟩ := exists_qualified_of_get?_row hleft
          obtain ⟨column', hname'⟩ := exists_qualified_of_get?_row hright
          have hequal := (qualified_inj ht.point_not_mem hu.point_not_mem).1 (hname.symm.trans hname')
          exact absurd hequal.1 hne

theorem exists_record_of_rows {files : FileTree} {rows : List Row} (h : t.rows files = .ok rows) :
    ∀ row ∈ rows, ∃ record, row = t.row record := by
  rw [Table.rows] at h
  obtain ⟨sheets, -, h⟩ := of_bind_ok h
  cases h
  intro row hrow
  obtain ⟨entry, -, hrow⟩ := List.mem_flatMap.1 hrow
  obtain ⟨record, -, rfl⟩ := List.mem_map.1 hrow
  exact ⟨record, rfl⟩

end Table

namespace Query

variable {tables tables' : List Table} {rows : Table → List Row}

/-! ## Queries -/

theorem checkField_of_perm (h : tables.Perm tables')
    (hname : ∀ t ∈ tables, ∀ u ∈ tables, t.name = u.name → t = u) (field : String) :
    checkField tables field = checkField tables' field := by
  have hfind : ∀ name, tables.find? (·.name == name) = tables'.find? (·.name == name) := by
    intro name
    cases hleft : tables.find? (·.name == name) with
    | none =>
        rw [List.find?_eq_none] at hleft
        exact (List.find?_eq_none.2 fun t ht => hleft t (h.mem_iff.2 ht)).symm
    | some t =>
        cases hright : tables'.find? (·.name == name) with
        | none =>
            rw [List.find?_eq_none] at hright
            have hmem := h.mem_iff.1 (List.mem_of_find?_eq_some hleft)
            have hfound := List.find?_some hleft
            exact absurd hfound (hright t hmem)
        | some u =>
            have ht := List.find?_some hleft
            have hu := List.find?_some hright
            have hequal := (beq_iff_eq.1 ht).trans (beq_iff_eq.1 hu).symm
            rw [hname t (List.mem_of_find?_eq_some hleft) u
              (h.mem_iff.2 (List.mem_of_find?_eq_some hright)) hequal]
  simp only [checkField, hfind]

theorem checkFields_of_perm (h : tables.Perm tables')
    (hname : ∀ t ∈ tables, ∀ u ∈ tables, t.name = u.name → t = u) (fields : List String) :
    checkFields tables fields = checkFields tables' fields := by
  induction fields with
  | nil => rfl
  | cons field rest ih => rw [checkFields, checkFields, ih, checkField_of_perm h hname]

theorem selected_of_perm {scope scope' : List String} (h : scope.Perm scope')
    (condition : Option Condition) (t : Table) (all : List Row) :
    selected scope condition t all = selected scope' condition t all := by
  cases condition with
  | none => rfl
  | some c => exact List.filter_congr fun row _ => c.admits_of_mem_iff (fun _ => h.mem_iff) t.name row

theorem mem_of_mem_selected {scope : List String} {condition : Option Condition} {t : Table}
    {all : List Row} {row : Row} (h : row ∈ selected scope condition t all) : row ∈ all := by
  cases condition with
  | none => exact h
  | some c => exact List.mem_of_mem_filter h

/-- The second filter asks for the condition unless there is a single table. -/
theorem checked_eq_ite (mode : JoinMode) (tables : List Table) (condition : Option Condition)
    (all : List Row) : checked mode tables condition all
      = if tables.length = 1 then all
        else match condition, mode with
          | some c, .joined => all.filter (c.holds (tables.map Table.name))
          | _, _ => all := by
  rcases tables with _ | ⟨t, _ | ⟨u, rest⟩⟩
  · cases condition <;> cases mode <;> rfl
  · rfl
  · cases condition <;> cases mode <;> rfl

theorem sameRows_checked (mode : JoinMode) (h : tables.Perm tables')
    (condition : Option Condition) {left right : List Row} (hrows : SameRows left right) :
    SameRows (checked mode tables condition left) (checked mode tables' condition right) := by
  rw [checked_eq_ite, checked_eq_ite, h.length_eq]
  split
  · exact hrows
  · split
    · rename_i c
      have hholds : c.holds (tables.map Table.name) = c.holds (tables'.map Table.name) :=
        funext fun row => c.holds_of_mem_iff (fun _ => (h.map Table.name).mem_iff) row
      rw [hholds]
      exact hrows.filter (c.factorsThrough_holds _)
    · exact hrows

theorem sameRows_product (h : tables.Perm tables') (sets : Table → List Row)
    (hapart : ∀ t ∈ tables, ∀ u ∈ tables, t ≠ u → ∀ l ∈ sets t, ∀ r ∈ sets u, l.Apart r) :
    SameRows (product (tables.map sets)) (product (tables'.map sets)) := by
  by_cases hne : tables = []
  · subst hne
    rw [h.nil_eq]
    exact .refl _
  · have hne' : tables' ≠ [] := fun heq => hne (List.perm_nil.1 (heq ▸ h))
    rw [product_eq_foldr (mt List.map_eq_nil_iff.1 hne),
      product_eq_foldr (mt List.map_eq_nil_iff.1 hne')]
    exact .foldr_pairs sets h hapart

/-- A query answers the same records for the tables in another order, up to their own order, or the
same failure. -/
theorem answer_of_perm (mode : JoinMode) (h : tables.Perm tables')
    (hname : ∀ t ∈ tables, ∀ u ∈ tables, t.name = u.name → t = u) (fields : List String)
    (condition : Option Condition)
    (hapart : ∀ t ∈ tables, ∀ u ∈ tables, t ≠ u → ∀ l ∈ rows t, ∀ r ∈ rows u, l.Apart r) :
    (∃ failure, answer mode tables fields condition rows = .error failure ∧
      answer mode tables' fields condition rows = .error failure) ∨
    ∃ records records', answer mode tables fields condition rows = .ok records ∧
      answer mode tables' fields condition rows = .ok records' ∧ records.Perm records' := by
  rw [answer, answer, ← checkFields_of_perm h hname]
  cases checkFields tables fields with
  | error failure => exact .inl ⟨failure, rfl, rfl⟩
  | ok _ =>
      have hscope : ∀ t, selected (tables'.map Table.name) condition t (rows t)
          = selected (tables.map Table.name) condition t (rows t) := fun t =>
        selected_of_perm (h.map Table.name).symm condition t (rows t)
      simp only [hscope]
      have hproduct := sameRows_product h
        (fun t => selected (tables.map Table.name) condition t (rows t)) fun t ht u hu hne l hl r hr =>
          hapart t ht u hu hne l (mem_of_mem_selected hl) r (mem_of_mem_selected hr)
      refine .inr ⟨_, _, rfl, rfl, (sameRows_checked mode h condition hproduct).map ?_⟩
      exact fun row other heq => congrArg fields.filterMap heq

end Query

namespace Database

variable {db : Database} {names names' : List String} {files : FileTree}

theorem tables_cons {name : String} {rest : List String} {t : Table} {ts : List Table}
    (ht : db.table name = .ok t) (hts : db.tables rest = .ok ts) :
    db.tables (name :: rest) = .ok (t :: ts) := by
  rw [tables, ht, hts]
  rfl

/-- Names in another order are those of the tables in another order. -/
theorem exists_tables_of_perm (h : names.Perm names') {ts : List Table}
    (hts : db.tables names = .ok ts) : ∃ ts', db.tables names' = .ok ts' ∧ ts.Perm ts' := by
  induction h generalizing ts with
  | nil => exact ⟨ts, hts, .refl _⟩
  | cons name _ ih =>
      rw [tables] at hts
      obtain ⟨t, ht, hts⟩ := of_bind_ok hts
      obtain ⟨us, hus, hts⟩ := of_bind_ok hts
      cases hts
      obtain ⟨us', hus', hperm⟩ := ih hus
      exact ⟨t :: us', tables_cons ht hus', hperm.cons t⟩
  | swap name other rest =>
      rw [tables] at hts
      obtain ⟨t, ht, hts⟩ := of_bind_ok hts
      obtain ⟨us, hus, hts⟩ := of_bind_ok hts
      cases hts
      rw [tables] at hus
      obtain ⟨u, hu, hus⟩ := of_bind_ok hus
      obtain ⟨vs, hvs, hus⟩ := of_bind_ok hus
      cases hus
      exact ⟨u :: t :: vs, tables_cons hu (tables_cons ht hvs), .swap u t vs⟩
  | trans _ _ ihfirst ihsecond =>
      obtain ⟨us, hus, hfirst⟩ := ihfirst hts
      obtain ⟨vs, hvs, hsecond⟩ := ihsecond hus
      exact ⟨vs, hvs, hfirst.trans hsecond⟩

/-- A selection that succeeds does so for its tables in any order, and answers the same records in
some order. -/
theorem exists_select_of_perm (hvalid : db.schema.validate = .ok ()) (h : names.Perm names')
    {fields : List String} {condition : Option Condition} {records : List Record}
    (hselect : db.select fields names condition files = .ok records) :
    ∃ records', db.select fields names' condition files = .ok records' ∧
      records.Perm records' := by
  rw [select] at hselect
  obtain ⟨ts, hts, hquery⟩ := of_bind_ok hselect
  obtain ⟨ts', hts', hperm⟩ := exists_tables_of_perm h hts
  have htable : ∀ t ∈ ts, db.table? t.name = some t := fun t ht => table?_of_mem_tables hts ht
  have hname : ∀ t ∈ ts, ∀ u ∈ ts, t.name = u.name → t = u := by
    intro t ht u hu heq
    have htu := htable t ht
    rw [heq, htable u hu] at htu
    exact (Option.some.inj htu).symm
  have hread : ∀ t, t ∈ ts → ∃ rows, t.rows files = .ok rows := fun t ht =>
    (Query.exists_sheets_of_select hquery t ht).elim fun _ hsheets =>
      ⟨_, Table.rows_of_sheets hsheets⟩
  choose! rows hrows using hread
  have hapart : ∀ t ∈ ts, ∀ u ∈ ts, t ≠ u → ∀ l ∈ rows t, ∀ r ∈ rows u, l.Apart r := by
    intro t ht u hu hne l hl r hr
    obtain ⟨record, rfl⟩ := Table.exists_record_of_rows (hrows t ht) l hl
    obtain ⟨other, rfl⟩ := Table.exists_record_of_rows (hrows u hu) r hr
    exact Table.apart_row (proper_of_table? hvalid (htable t ht))
      (proper_of_table? hvalid (htable u hu)) (fun heq => hne (hname t ht u hu heq)) record other
  rw [Query.select_eq_answer db.joinMode fields hrows] at hquery
  have hquery' : Query.select db.joinMode ts' fields condition files
      = Query.answer db.joinMode ts' fields condition rows :=
    Query.select_eq_answer db.joinMode fields fun t ht => hrows t (hperm.mem_iff.2 ht)
  rcases Query.answer_of_perm db.joinMode hperm hname fields condition hapart with
    ⟨failure, hfails, -⟩ | ⟨answered, answered', hanswer, hanswer', hanswered⟩
  · cases hfails.symm.trans hquery
  · obtain rfl := Except.ok.inj (hanswer.symm.trans hquery)
    refine ⟨answered', ?_, hanswered⟩
    rw [select, hts']
    exact hquery'.trans hanswer'

/-- Whatever the files, the mode and the condition, a selection from tables in one order succeeds if
and only if it does for any other order of these tables, and then both answer the same records in
some order.  Tables may be named more than once. -/
theorem select_permuted_tables (hvalid : db.schema.validate = .ok ()) (h : names.Perm names')
    (fields : List String) (condition : Option Condition) (files : FileTree) :
    ((∃ records, db.select fields names condition files = .ok records) ↔
      ∃ records, db.select fields names' condition files = .ok records) ∧
    ∀ records records', db.select fields names condition files = .ok records →
      db.select fields names' condition files = .ok records' → records.Perm records' := by
  refine ⟨⟨fun ⟨records, hselect⟩ => ?_, fun ⟨records, hselect⟩ => ?_⟩,
    fun records records' hselect hselect' => ?_⟩
  · obtain ⟨records', hselect', -⟩ := exists_select_of_perm hvalid h hselect
    exact ⟨records', hselect'⟩
  · obtain ⟨records', hselect', -⟩ := exists_select_of_perm hvalid h.symm hselect
    exact ⟨records', hselect'⟩
  · obtain ⟨other, hother, hperm⟩ := exists_select_of_perm hvalid h hselect
    obtain rfl := Except.ok.inj (hother.symm.trans hselect')
    exact hperm

/-- Two beers and two brewers, selected with the beers twice.  The two orders answer the eight rows
in different orders. -/
theorem sample_select_permuted_tables :
    let files := (runSteps sample.step [.insert "beer" ["Duvel", "Ale"],
      .insert "beer" ["Orval", "Trappist"], .insert "brewer" ["Moortgat"],
      .insert "brewer" ["Villers"]] (stateOf (sample.ensure FileTree.empty))).2
    let fields := ["beer.name", "brewer.name"]
    ∃ records records',
      sample.select fields ["beer", "brewer", "beer"] none files = .ok records ∧
      sample.select fields ["brewer", "beer", "beer"] none files = .ok records' ∧
      records.Perm records' ∧ records ≠ records' ∧ records.length = 8 := by
  intro files fields
  have hselect : sample.select fields ["beer", "brewer", "beer"] none files
      = .ok [["Duvel", "Moortgat"], ["Orval", "Moortgat"], ["Duvel", "Villers"],
          ["Orval", "Villers"], ["Duvel", "Moortgat"], ["Orval", "Moortgat"],
          ["Duvel", "Villers"], ["Orval", "Villers"]] := by decide +kernel
  have hselect' : sample.select fields ["brewer", "beer", "beer"] none files
      = .ok [["Duvel", "Moortgat"], ["Orval", "Moortgat"], ["Duvel", "Moortgat"],
          ["Orval", "Moortgat"], ["Duvel", "Villers"], ["Orval", "Villers"],
          ["Duvel", "Villers"], ["Orval", "Villers"]] := by decide +kernel
  have hperm := (select_permuted_tables validate_sample
    (.swap "brewer" "beer" ["beer"]) fields none files).2 _ _ hselect hselect'
  exact ⟨_, _, hselect, hselect', hperm, by decide, rfl⟩

end Database

end SheetStore
