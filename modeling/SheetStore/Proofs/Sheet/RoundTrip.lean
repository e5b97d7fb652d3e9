import SheetStore.Sheet
import SheetStore.Proofs.Results
import SheetStore.Proofs.Text.Lines

/-!
# Sheets read back as they were written

A record *fits a line* if joining its values by commas gives one line from which the values can be
cut again (`Record.FitsLine`).  A sheet whose header and records fit a line each, all of one width,
reads back as it was written (`Sheet.decode_encode`).  A record of a single empty value is left out:
its line is blank.

More facts serve the changes of a sheet in place.  Every encoded sheet ends with a line feed
(`Sheet.getLast?_encode`), so a record is added at the end by adding its line
(`Sheet.encode_append`).  And whatever text is read, its records have a value per column
(`Sheet.of_decode`), and their values can stand on a line again (`Sheet.isCell_of_decode`).
-/

namespace SheetStore

/-! ## Lines of records -/

/-- A value that can stand on a line next to others: it holds neither a comma nor a line feed. -/
def IsCell (value : String) : Prop := ',' ∉ value.toList ∧ Text.OneLine value

/-- The values of the record stand on one line and can be told apart. -/
structure Record.FitsLine (r : Record) : Prop where
  /-- There is a value. -/
  ne_nil : r ≠ []
  /-- No value holds the separator. -/
  no_comma : ∀ v ∈ r, ',' ∉ v.toList
  /-- No value breaks the line. -/
  no_lineFeed : ∀ v ∈ r, '\n' ∉ v.toList
  /-- The line does not end like a line break. -/
  no_return : ∀ v, r.getLast? = some v → v.toList.getLast? ≠ some '\r'

namespace Record.FitsLine

theorem lineFeed_not_mem {r : Record} (h : r.FitsLine) :
    '\n' ∉ (",".intercalate r).toList := Text.OneLine.intercalate (by decide) h.no_lineFeed

theorem getLast?_ne_return {r : Record} (h : r.FitsLine) :
    (",".intercalate r).toList.getLast? ≠ some '\r' := by
  obtain ⟨-, -, -, hlast⟩ := h
  induction r with
  | nil => simp
  | cons v rest ih =>
      cases rest with
      | nil => simpa using hlast v rfl
      | cons w rest =>
          have hrest := ih fun u hu => hlast u (by rw [List.getLast?_cons_cons]; exact hu)
          rw [String.intercalate_cons_cons, String.toList_append, List.getLast?_append]
          cases htail : (",".intercalate (w :: rest)).toList.getLast? with
          | none => simp
          | some c =>
              rw [htail] at hrest
              simpa using hrest

theorem fields_line {r : Record} (h : r.FitsLine) :
    Text.fields ',' (",".intercalate r) = r := Text.fields_intercalate h.ne_nil h.no_comma

/-- The line of the record comes first among the lines. -/
theorem lines_line {r : Record} (h : r.FitsLine) (rest : String) :
    Text.lines (r.line ++ rest) = ",".intercalate r :: Text.lines rest := by
  rw [Record.line, Text.lines_line h.lineFeed_not_mem,
    Text.dropReturn_of_getLast? h.getLast?_ne_return, String.ofList_toList]

end Record.FitsLine

/-- Only a record without values, or with a single empty one, has a blank line. -/
theorem Record.intercalate_ne_empty {r : Record} (hne : r ≠ []) (hblank : r ≠ [""]) :
    ",".intercalate r ≠ "" := by
  cases r with
  | nil => exact absurd rfl hne
  | cons v rest =>
      cases rest with
      | nil =>
          rw [String.intercalate_singleton]
          exact fun h => hblank (by rw [h])
      | cons w rest =>
          rw [String.intercalate_cons_cons]
          simp

/-! ## Sheets -/

namespace Sheet

/-- Records that fit a line each, all of one width and none blank. -/
def Fits (width : Nat) (sheet : Sheet) : Prop :=
  ∀ r ∈ sheet, r.FitsLine ∧ r.length = width ∧ r ≠ [""]

theorem decodeRows_of_fits {width : Nat} {sheet : Sheet} (h : sheet.Fits width) (row : Nat) :
    decodeRows width row (sheet.map (",".intercalate ·)) = .ok sheet := by
  induction sheet generalizing row with
  | nil => rfl
  | cons r rest ih =>
      obtain ⟨hline, hwidth, hblank⟩ := h r List.mem_cons_self
      have hrest := ih (fun q hq => h q (List.mem_cons_of_mem _ hq)) (row + 1)
      have hnonempty : (",".intercalate r).isEmpty = false := by
        simpa using Record.intercalate_ne_empty hline.ne_nil hblank
      have hrow : decodeRow width row (",".intercalate r) = .ok r := by
        simp [decodeRow, hline.fields_line, hnonempty, hwidth]
      rw [List.map_cons, decodeRows, hrow, hrest]
      rfl

theorem lines_join {width : Nat} {sheet : Sheet} (h : sheet.Fits width) :
    Text.lines (String.join (sheet.map Record.line)) = sheet.map (",".intercalate ·) := by
  induction sheet with
  | nil => rfl
  | cons r rest ih =>
      rw [List.map_cons, String.join_cons, (h r List.mem_cons_self).1.lines_line,
        ih fun q hq => h q (List.mem_cons_of_mem _ hq), List.map_cons]

/-- A sheet reads back as it was written. -/
theorem decode_encode {columns : List String} {sheet : Sheet} (hcolumns : Record.FitsLine columns)
    (hsheet : sheet.Fits columns.length) : decode columns (encode columns sheet) = .ok sheet := by
  rw [decode, encode, hcolumns.lines_line, lines_join hsheet]
  simp only [hcolumns.fields_line, if_true]
  exact decodeRows_of_fits hsheet 1

/-- A record is added at the end of a sheet by its line. -/
theorem encode_append (columns : List String) (sheet : Sheet) (r : Record) :
    encode columns (sheet ++ [r]) = encode columns sheet ++ r.line := by
  simp [encode, String.append_assoc]

/-- Every encoded sheet ends with a line feed. -/
theorem getLast?_encode (columns : List String) (sheet : Sheet) :
    (encode columns sheet).toList.getLast? = some '\n' := by
  rcases List.eq_nil_or_concat sheet with rfl | ⟨front, r, rfl⟩
  · simp [encode, Record.line]
  · simp [encode_append, Record.line]

/-- The lines of a sheet are its header and its records. -/
theorem fields_encode {columns : List String} {sheet : Sheet}
    (h : ∀ r ∈ columns :: sheet, ∀ v ∈ r, Text.OneLine v) :
    Text.fields '\n' (encode columns sheet)
      = (columns :: sheet).map (",".intercalate ·) ++ [""] := by
  have htext : encode columns sheet
      = String.join (((columns :: sheet).map (",".intercalate ·)).map (· ++ "\n")) := by
    rw [List.map_map, List.map_cons, String.join_cons]
    rfl
  rw [htext, Text.fields_join_lines]
  intro line hline
  obtain ⟨r, hr, rfl⟩ := List.mem_map.1 hline
  exact Text.OneLine.intercalate (by decide) (h r hr)

/-! ## What a text that is read gives -/

/-- A line that is read has a value per column. -/
theorem of_decodeRow {width row : Nat} {line : String} {r : Record}
    (h : decodeRow width row line = .ok r) : r = Text.fields ',' line ∧ r.length = width := by
  simp only [decodeRow] at h
  split at h
  · cases h
  · split at h
    · cases h
    · rename_i hwidth
      cases h
      exact ⟨rfl, Decidable.not_not.1 hwidth⟩

theorem of_decodeRows {width row : Nat} {lines : List String} {sheet : Sheet}
    (h : decodeRows width row lines = .ok sheet) :
    ∀ r ∈ sheet, ∃ line ∈ lines, r = Text.fields ',' line ∧ r.length = width := by
  induction lines generalizing row sheet with
  | nil =>
      cases h
      exact List.forall_mem_nil _
  | cons line rest ih =>
      rw [decodeRows] at h
      obtain ⟨r, hrow, h⟩ := of_bind_ok h
      obtain ⟨rs, hrest, h⟩ := of_bind_ok h
      cases h
      rw [List.forall_mem_cons]
      refine ⟨⟨line, List.mem_cons_self, of_decodeRow hrow⟩, fun q hq => ?_⟩
      obtain ⟨other, hother, hfields⟩ := ih hrest q hq
      exact ⟨other, List.mem_cons_of_mem _ hother, hfields⟩

/-- Every record that is read has the fields of a line of the text, one per column. -/
theorem of_decode {columns : List String} {text : String} {sheet : Sheet}
    (h : decode columns text = .ok sheet) :
    ∀ r ∈ sheet, ∃ line ∈ Text.lines text,
      r = Text.fields ',' line ∧ r.length = columns.length := by
  rw [decode] at h
  split at h
  · cases h
  · rename_i header rows hlines
    split at h
    · intro r hr
      obtain ⟨line, hline, hfields⟩ := of_decodeRows h r hr
      exact ⟨line, hlines ▸ List.mem_cons_of_mem _ hline, hfields⟩
    · cases h

/-- The values on a line of a text can stand on a line. -/
theorem isCell_of_mem_fields {text line value : String} (hline : line ∈ Text.lines text)
    (hvalue : value ∈ Text.fields ',' line) : IsCell value := by
  obtain ⟨hcomma, hchars⟩ := Text.of_mem_fields hvalue
  exact ⟨hcomma, mt (hchars _) (Text.oneLine_of_mem_lines hline)⟩

/-- Every value that is read can stand on a line. -/
theorem isCell_of_decode {columns : List String} {text : String} {sheet : Sheet}
    (h : decode columns text = .ok sheet) : ∀ r ∈ sheet, ∀ v ∈ r, IsCell v := by
  intro r hr v hv
  obtain ⟨line, hline, rfl, -⟩ := of_decode h r hr
  exact isCell_of_mem_fields hline hv

end Sheet

end SheetStore
