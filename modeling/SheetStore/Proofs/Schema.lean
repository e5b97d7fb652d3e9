import SheetStore.Schema
import SheetStore.Table
import SheetStore.Database
import SheetStore.Proofs.Sheet.RoundTrip

/-!
# What a valid schema gives

A schema that passes its checks declares tables whose names and columns are identifiers, with at
least one column besides the key and no column twice (`Table.Proper`).  Identifiers are free of the
characters that the files and the command language use for their own ends
(`Text.not_mem_of_isIdentifier`), so the columns of a table fit the header of a sheet
(`Table.Proper.header`).
-/

namespace SheetStore

/-! ## Identifiers -/

namespace Text

theorem not_mem_of_isIdentifier {s : String} {c : Char} (h : isIdentifier s = true)
    (hc : isIdentifierChar c = false) : c ∉ s.toList := by
  intro hmem
  rw [isIdentifier, Bool.and_eq_true, List.all_eq_true] at h
  rw [h.2 c hmem] at hc
  cases hc

theorem oneLine_of_isIdentifier {s : String} (h : isIdentifier s = true) : OneLine s :=
  not_mem_of_isIdentifier h (by decide)

theorem toList_ne_nil_of_isIdentifier {s : String} (h : isIdentifier s = true) : s.toList ≠ [] := by
  rw [isIdentifier, Bool.and_eq_true] at h
  simpa using h.1

theorem isIdentifier_append {s t : String} (hs : isIdentifier s = true)
    (ht : isIdentifier t = true) : isIdentifier (s ++ t) = true := by
  rw [isIdentifier, Bool.and_eq_true, List.all_eq_true] at hs ht ⊢
  constructor
  · simp_all
  · intro c hc
    rw [String.toList_append, List.mem_append] at hc
    exact hc.elim (hs.2 c) (ht.2 c)

end Text

/-! ## Tables -/

/-- A table as a valid schema declares it. -/
structure Table.Proper (t : Table) : Prop where
  /-- The name is an identifier. -/
  name : Text.isIdentifier t.name = true
  /-- The columns are identifiers. -/
  identifiers : ∀ c ∈ t.columns, Text.isIdentifier c = true
  /-- No column occurs twice. -/
  nodup : t.columns.Nodup
  /-- There is a column besides the key. -/
  wide : 2 ≤ t.columns.length

/-- The columns of a table fit the header of its sheets. -/
theorem Table.Proper.header {t : Table} (h : t.Proper) : Record.FitsLine t.columns where
  ne_nil := by
    have := h.wide
    rintro heq
    rw [heq] at this
    simp at this
  no_comma c hc := Text.not_mem_of_isIdentifier (h.identifiers c hc) (by decide)
  no_lineFeed c hc := Text.not_mem_of_isIdentifier (h.identifiers c hc) (by decide)
  no_return c hc hlast :=
    Text.not_mem_of_isIdentifier (h.identifiers c (List.mem_of_getLast? hc)) (by decide)
      (List.mem_of_getLast? hlast)

/-! ## The checks of a schema -/

namespace Schema

theorem of_checkColumns {table : String} {earlier columns : List String}
    (h : checkColumns table earlier columns = .ok ()) :
    columns.Nodup ∧ ∀ c ∈ columns,
      Text.isIdentifier c = true ∧ c ≠ keyColumn table ∧ c ∉ earlier := by
  induction columns generalizing earlier with
  | nil => simp
  | cons c rest ih =>
      rw [checkColumns] at h
      split at h
      · cases h
      · rename_i hc
        split at h
        · cases h
        · rename_i hkey
          split at h
          · cases h
          · rename_i hearlier
            obtain ⟨hnodup, hrest⟩ := ih h
            refine ⟨List.nodup_cons.2 ⟨fun hmem => ?_, hnodup⟩, fun d hd => ?_⟩
            · exact (hrest c hmem).2.2 List.mem_cons_self
            · rcases List.mem_cons.1 hd with rfl | hd
              · exact ⟨by simpa using hc, hkey, by simpa using hearlier⟩
              · obtain ⟨hident, hne, hfree⟩ := hrest d hd
                exact ⟨hident, hne, fun hmem => hfree (List.mem_cons_of_mem _ hmem)⟩

theorem of_checkTables {tables : List (String × List String)} (h : checkTables tables = .ok ())
    {table : String} {columns : List String} (hmem : (table, columns) ∈ tables) :
    checkTable table columns = .ok () := by
  induction tables with
  | nil => cases hmem
  | cons first rest ih =>
      obtain ⟨name, declared⟩ := first
      rw [checkTables] at h
      obtain ⟨_, hfirst, h⟩ := of_bind_ok h
      rcases List.mem_cons.1 hmem with heq | hmem
      · cases heq
        exact hfirst
      · exact ih h hmem

theorem isIdentifier_name {s : Schema} (h : s.validate = .ok ()) :
    Text.isIdentifier s.name = true := by
  rw [validate] at h
  split at h
  · cases h
  · rename_i hname
    simpa using hname

/-- A sheet takes at least one record. -/
theorem sheetLimit_pos {s : Schema} (h : s.validate = .ok ()) : 0 < s.sheetLimit := by
  rw [validate] at h
  split at h
  · cases h
  · split at h
    · cases h
    · rename_i hlimit
      exact Nat.pos_of_ne_zero hlimit

theorem checkTable_of_validate {s : Schema} (h : s.validate = .ok ()) {table : String}
    {columns : List String} (hmem : s.tables[table]? = some columns) :
    checkTable table columns = .ok () := by
  rw [validate] at h
  split at h
  · cases h
  · split at h
    · cases h
    · split at h
      · cases h
      · exact of_checkTables h (Std.ExtTreeMap.mem_toList_iff_getElem?_eq_some.2 hmem)

end Schema

namespace Database

variable {db : Database} {name : String} {t : Table}

theorem name_of_table? (h : db.table? name = some t) : t.name = name := by
  simp only [table?, Option.map_eq_some_iff] at h
  obtain ⟨_, -, rfl⟩ := h
  rfl

theorem dir_of_table? (h : db.table? name = some t) : t.dir = db.dir.entry name := by
  simp only [table?, Option.map_eq_some_iff] at h
  obtain ⟨_, -, rfl⟩ := h
  rfl

/-- The first column of a table is its key. -/
theorem head?_columns_of_table? (h : db.table? name = some t) :
    t.columns.head? = some (keyColumn name) := by
  simp only [table?, Schema.columns?, Option.map_eq_some_iff] at h
  obtain ⟨_, ⟨declared, -, rfl⟩, rfl⟩ := h
  rfl

theorem keyColumn_mem (h : db.table? name = some t) : keyColumn name ∈ t.columns :=
  List.mem_of_mem_head? (head?_columns_of_table? h)

/-- A valid schema declares proper tables. -/
theorem proper_of_table? (hvalid : db.schema.validate = .ok ()) (h : db.table? name = some t) :
    t.Proper := by
  simp only [table?, Schema.columns?, Option.map_eq_some_iff] at h
  obtain ⟨_, ⟨declared, hdeclared, rfl⟩, rfl⟩ := h
  have hcheck := Schema.checkTable_of_validate hvalid hdeclared
  rw [Schema.checkTable] at hcheck
  split at hcheck
  · cases hcheck
  · rename_i hname
    have hident : Text.isIdentifier name = true := by simpa using hname
    split at hcheck
    · cases hcheck
    · rename_i hne
      obtain ⟨hnodup, hcolumns⟩ := Schema.of_checkColumns hcheck
      refine ⟨hident, ?_, List.nodup_cons.2 ⟨fun hmem => (hcolumns _ hmem).2.1 rfl, hnodup⟩, ?_⟩
      · intro c hc
        rcases List.mem_cons.1 hc with rfl | hc
        · exact Text.isIdentifier_append hident (by decide)
        · exact (hcolumns c hc).1
      · have hpos : 0 < declared.length :=
          List.length_pos_iff.2 (mt List.isEmpty_iff.2 hne)
        rw [List.length_cons]
        omega

end Database

end SheetStore
