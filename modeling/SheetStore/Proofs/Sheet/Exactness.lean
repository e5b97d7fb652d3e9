import SheetStore.Proofs.Checks
import SheetStore.Proofs.Steps

/-!
# Which sheets read back

Nothing in the text of a sheet is escaped, so not every sheet reads back as it was written.  Those
that do are exactly the sheets whose header and records fit a line each, all of one width and none
blank (`Sheet.decode_encode_iff`).

That this is enough is `Sheet.decode_encode`.  It is also needed, even where a separator in one
value makes up for a value that is missing: what is read are fields of lines, so the values of a
sheet that reads back hold no separator.  Then every record has the line that was written for it
(`Sheet.lines_of_decodeRows`), and a return at the end of a record would have been lost with the
line feed after it (`Sheet.fitsLine_of_lines`).

In the tables of a valid schema all sheets of records that insertions make read back
(`Sheet.decode_encode_exact`).
-/

namespace SheetStore

/-- The line of a record ends as its last value does. -/
theorem Record.getLast?_intercalate {r : Record} {v : String} {c : Char}
    (hv : r.getLast? = some v) (hc : v.toList.getLast? = some c) :
    (",".intercalate r).toList.getLast? = some c := by
  induction r with
  | nil => cases hv
  | cons w rest ih =>
      cases rest with
      | nil =>
          cases hv
          rwa [String.intercalate_singleton]
      | cons u rest =>
          rw [List.getLast?_cons_cons] at hv
          rw [String.intercalate_cons_cons, String.toList_append, List.getLast?_append, ih hv,
            Option.some_or]

namespace Sheet

variable {columns : List String} {sheet : Sheet} {width row : Nat}

/-- Lines that are read are those of their records, and none is blank. -/
theorem lines_of_decodeRows {lines : List String} (h : decodeRows width row lines = .ok sheet) :
    lines = sheet.map (",".intercalate ·) ∧ ∀ r ∈ sheet, r.length = width ∧ r ≠ [""] := by
  induction lines generalizing row sheet with
  | nil =>
      cases h
      exact ⟨rfl, List.forall_mem_nil _⟩
  | cons line rest ih =>
      rw [decodeRows] at h
      obtain ⟨r, hrow, h⟩ := of_bind_ok h
      obtain ⟨rs, hrest, h⟩ := of_bind_ok h
      cases h
      obtain ⟨hlines, hrecords⟩ := ih hrest
      obtain ⟨hfields, hwidth⟩ := of_decodeRow hrow
      have hline : ",".intercalate r = line := by rw [hfields, Text.intercalate_fields]
      have hblank : r ≠ [""] := by
        rintro rfl
        rw [String.intercalate_singleton] at hline
        rw [← hline] at hrow
        cases hrow
      rw [List.map_cons, hline, ← hlines, List.forall_mem_cons]
      exact ⟨rfl, ⟨hwidth, hblank⟩, hrecords⟩

/-- If records have the lines that were written for them, none of them ends with a return. -/
theorem fitsLine_of_lines {records : List Record}
    (hcells : ∀ r ∈ records, r ≠ [] ∧ ∀ v ∈ r, IsCell v)
    (hlines : Text.lines (String.join (records.map Record.line))
      = records.map (",".intercalate ·)) : ∀ r ∈ records, r.FitsLine := by
  induction records with
  | nil => exact List.forall_mem_nil _
  | cons r rest ih =>
      rw [List.forall_mem_cons] at hcells
      obtain ⟨⟨hne, hcells⟩, hrest⟩ := hcells
      have hline : '\n' ∉ (",".intercalate r).toList :=
        Text.OneLine.intercalate (by decide) fun v hv => (hcells v hv).2
      rw [List.map_cons, String.join_cons, Record.line, Text.lines_line hline, List.map_cons,
        List.cons.injEq] at hlines
      have hkept : Text.dropReturn (",".intercalate r).toList = (",".intercalate r).toList := by
        rw [← String.toList_ofList (l := Text.dropReturn _), hlines.1]
      rw [List.forall_mem_cons]
      refine ⟨⟨hne, fun v hv => (hcells v hv).1, fun v hv => (hcells v hv).2, fun v hv hlast => ?_⟩,
        ih hrest hlines.2⟩
      exact Text.getLast?_ne_of_dropReturn hkept (Record.getLast?_intercalate hv hlast)

/-- A sheet reads back if and only if its header and its records fit a line each, all of one width
and none blank. -/
theorem decode_encode_iff : decode columns (encode columns sheet) = .ok sheet ↔
    Record.FitsLine columns ∧ sheet.Fits columns.length := by
  refine ⟨fun h => ?_, fun h => decode_encode h.1 h.2⟩
  have hvalues := isCell_of_decode h
  rw [decode] at h
  split at h
  · cases h
  · rename_i header rows hlines
    split at h
    · rename_i hheader
      obtain ⟨hrows, hrecords⟩ := lines_of_decodeRows h
      have hcolumns : columns ≠ [] := hheader ▸ Text.fields_ne_nil ',' header
      have hcells : ∀ r ∈ columns :: sheet, r ≠ [] ∧ ∀ v ∈ r, IsCell v := by
        rw [List.forall_mem_cons]
        constructor
        · refine ⟨hcolumns, fun v hv => isCell_of_mem_fields (hlines ▸ List.mem_cons_self) ?_⟩
          rwa [hheader]
        · refine fun r hr => ⟨?_, hvalues r hr⟩
          rintro rfl
          exact hcolumns (List.length_eq_zero_iff.1 (hrecords [] hr).1.symm)
      have hall : Text.lines (String.join ((columns :: sheet).map Record.line))
          = (columns :: sheet).map (",".intercalate ·) := by
        have htext : String.join ((columns :: sheet).map Record.line) = encode columns sheet := by
          rw [List.map_cons, String.join_cons, encode]
        rw [htext, hlines, hrows, List.map_cons, ← hheader, Text.intercalate_fields]
      have hfits := fitsLine_of_lines hcells hall
      rw [List.forall_mem_cons] at hfits
      exact ⟨hfits.1, fun r hr => ⟨hfits.2 r hr, hrecords r hr⟩⟩
    · cases h

/-- Exactly the sheets of records that fit a line read back, and among them are all sheets of
records that insertions make in a table of a valid schema. -/
theorem decode_encode_exact :
    (∀ (columns : List String) (sheet : Sheet),
      decode columns (encode columns sheet) = .ok sheet ↔
        Record.FitsLine columns ∧ sheet.Fits columns.length) ∧
      ∀ (db : Database) (t : Table) (sheet : Sheet), db.schema.validate = .ok () →
        db.table? t.name = some t →
        (∀ r ∈ sheet, ∃ key values, db.insertionTable t.name values = .ok t ∧
          r = keyedRecord key values) →
        decode t.columns (encode t.columns sheet) = .ok sheet := by
  refine ⟨fun _ _ => decode_encode_iff, fun db t sheet hvalid ht hsheet => ?_⟩
  refine decode_encode (Database.proper_of_table? hvalid ht).header fun r hr => ?_
  obtain ⟨key, values, htable, rfl⟩ := hsheet r hr
  exact (Database.of_insertionTable hvalid htable).2 key _ (List.mem_singleton_self _)

/-- Two records of the small database, of which one ends with an empty value. -/
theorem sample_decode_encode_exact :
    decode Database.sampleBeer.columns (encode Database.sampleBeer.columns
      [keyedRecord 1 ["Duvel", ""], keyedRecord 7 ["Orval", "Trappist"]])
        = .ok [["1", "Duvel", ""], ["7", "Orval", "Trappist"]] := by
  refine decode_encode_exact.2 Database.sample Database.sampleBeer _ Database.validate_sample
    Database.table?_sample_beer ?_
  rw [List.forall_mem_cons, List.forall_mem_singleton]
  exact ⟨⟨1, ["Duvel", ""], by decide +kernel, rfl⟩,
    ⟨7, ["Orval", "Trappist"], by decide +kernel, rfl⟩⟩

/-- A separator makes up for a value that is missing, and another record is read. -/
example : decode ["name", "style"] (encode ["name", "style"] [["Orval,Trappist"]])
    = .ok [["Orval", "Trappist"]] := by decide +kernel

end Sheet

end SheetStore
