import SheetStore.Proofs.Sheet.RoundTrip

/-!
# Adding a line to the text of a sheet

A record is added to a sheet by writing its line at the end of the text, without reading what is
there.  The text need not be one that was encoded: `Sheet.decode` takes lines that end with a
carriage return and a line feed, and a last line without an ending.

If the text ends with a line feed, then it reads as before with the record at the end
(`decode_append_line`).  If it does not, the record continues the last line, which then has too many
values, so that the text is no sheet any more (`exists_fault_of_unended`).  The last line may also be
the header.
-/

namespace SheetStore

namespace Sheet

variable {columns : List String} {text : String} {sheet : Sheet} {r : Record}

/-- The rows of two lists of lines are read one list after the other. -/
theorem decodeRows_append (width row : Nat) (front rest : List String) :
    decodeRows width row (front ++ rest) = (do
      let records ← decodeRows width row front
      let later ← decodeRows width (row + front.length) rest
      return records ++ later) := by
  induction front generalizing row with
  | nil =>
      rw [List.nil_append, List.length_nil, Nat.add_zero]
      cases decodeRows width row rest <;> rfl
  | cons line front ih =>
      have hrow : row + 1 + front.length = row + (line :: front).length := by
        rw [List.length_cons, Nat.add_right_comm, Nat.add_assoc]
      simp only [List.cons_append, decodeRows, ih, hrow, bind_assoc, pure_bind]

theorem line_eq_of_fits (hr : Sheet.Fits columns.length [r]) :
    Text.lines r.line = [",".intercalate r] := by
  have hline := (hr r List.mem_cons_self).1.lines_line ""
  rwa [String.append_empty, Text.lines_empty] at hline

/-- A text that ends with a line feed takes one more line. -/
theorem decode_append_line (h : decode columns text = .ok sheet)
    (hended : text.toList.getLast? = some '\n') (hr : Sheet.Fits columns.length [r]) :
    decode columns (text ++ r.line) = .ok (sheet ++ [r]) := by
  have hlines : Text.lines (text ++ r.line) = Text.lines text ++ [",".intercalate r] := by
    rw [Text.lines_append, line_eq_of_fits hr]
    intro c hc
    rw [hended] at hc
    exact (Option.some.inj hc).symm
  have hrow := decodeRows_of_fits hr
  unfold decode at h ⊢
  rw [hlines]
  cases hheader : Text.lines text with
  | nil =>
      rw [hheader] at h
      cases h
  | cons header rows =>
      simp only [hheader] at h
      simp only [List.cons_append]
      split at h
      · rename_i hcolumns
        rw [if_pos hcolumns, decodeRows_append, h]
        have hlast := hrow (1 + rows.length)
        rw [List.map_singleton] at hlast
        show (do
          let later ← decodeRows columns.length (1 + rows.length) [",".intercalate r]
          return sheet ++ later) = _
        rw [hlast]
        rfl
      · cases h

/-- A line that another one continues has the values of both, of which one is in two parts. -/
theorem length_fields_append (line : String) (hr : Sheet.Fits columns.length [r]) :
    (Text.fields ',' (line ++ ",".intercalate r)).length + 1
      = (Text.fields ',' line).length + columns.length := by
  obtain ⟨hline, hwidth, -⟩ := hr r List.mem_cons_self
  have hlen := congrArg List.length hline.fields_line
  simp only [Text.fields, List.length_map, Text.length_splitOn, String.toList_append,
    List.count_append] at hlen ⊢
  omega

theorem decodeRow_of_wrongWidth {width : Nat} {line : String} (row : Nat) (hne : line ≠ "")
    (hwidth : (Text.fields ',' line).length ≠ width) :
    decodeRow width row line = .error (.wrongWidth row (Text.fields ',' line).length width) := by
  simp [decodeRow, hne, hwidth]

/-- A record that is put after a line without an ending continues that line. -/
theorem lines_continued {front rest : String}
    (hfront : ∀ c, front.toList.getLast? = some c → c = '\n') (hrest : '\n' ∉ rest.toList)
    (hr : Sheet.Fits columns.length [r]) :
    Text.lines (front ++ rest ++ r.line)
      = Text.lines front ++ [rest ++ ",".intercalate r] := by
  obtain ⟨hline, -, hblank⟩ := hr r List.mem_cons_self
  have hfree : '\n' ∉ (rest ++ ",".intercalate r).toList := by
    rw [String.toList_append, List.mem_append, not_or]
    exact ⟨hrest, hline.lineFeed_not_mem⟩
  have hlast : (rest ++ ",".intercalate r).toList.getLast? ≠ some '\r' := by
    have hnonempty : (",".intercalate r).toList ≠ [] := by
      rw [ne_eq, String.toList_eq_nil_iff]
      exact Record.intercalate_ne_empty hline.ne_nil hblank
    rw [String.toList_append, List.getLast?_append, List.getLast?_eq_some_getLast hnonempty,
      Option.some_or, ← List.getLast?_eq_some_getLast hnonempty]
    exact hline.getLast?_ne_return
  have hcontinued : Text.lines (rest ++ ",".intercalate r ++ "\n" ++ "")
      = String.ofList (Text.dropReturn (rest ++ ",".intercalate r).toList) :: Text.lines "" :=
    Text.lines_line hfree
  rw [Text.dropReturn_of_getLast? hlast, String.ofList_toList, Text.lines_empty,
    String.append_empty] at hcontinued
  rw [String.append_assoc, Text.lines_append hfront, Record.line, ← String.append_assoc,
    hcontinued]

/-- A text that does not end with a line feed takes no more line. -/
theorem exists_fault_of_unended (hwide : 2 ≤ columns.length) (h : decode columns text = .ok sheet)
    (hunended : text.toList.getLast? ≠ some '\n') (hr : Sheet.Fits columns.length [r]) :
    ∃ fault, decode columns (text ++ r.line) = .error fault := by
  obtain ⟨front, rest, rfl, hfront, hrest⟩ := Text.exists_lines_rest text
  have hne : rest ≠ "" := by
    rintro rfl
    rw [String.append_empty] at hunended h
    cases hlast : front.toList.getLast? with
    | none =>
        rw [List.getLast?_eq_none_iff, String.toList_eq_nil_iff] at hlast
        rw [hlast] at h
        cases h
    | some c =>
        rw [hlast, hfront c hlast] at hunended
        exact hunended rfl
  have hwidth := length_fields_append rest hr
  unfold decode at h ⊢
  rw [Text.lines_append hfront, Text.lines_of_not_mem hne hrest] at h
  rw [lines_continued hfront hrest hr]
  cases hheader : Text.lines front with
  | nil =>
      -- the record continues the header
      rw [hheader] at h
      simp only [List.nil_append] at h ⊢
      split at h
      · rename_i hcolumns
        rw [hcolumns] at hwidth
        rw [if_neg]
        · exact ⟨_, rfl⟩
        · intro heq
          rw [heq] at hwidth
          omega
      · cases h
  | cons header rows =>
      -- the record continues the last row
      rw [hheader] at h
      simp only [List.cons_append] at h ⊢
      split at h
      · rename_i hcolumns
        rw [if_pos hcolumns]
        rw [decodeRows_append] at h ⊢
        obtain ⟨records, hrows, h⟩ := of_bind_ok h
        obtain ⟨later, hlater, -⟩ := of_bind_ok h
        rw [decodeRows] at hlater
        obtain ⟨last, hlast, -⟩ := of_bind_ok hlater
        obtain ⟨rfl, hlen⟩ := of_decodeRow hlast
        have hnonempty : rest ++ ",".intercalate r ≠ "" := by simp [hne]
        have hrow := decodeRow_of_wrongWidth (1 + rows.length) hnonempty
          (show (Text.fields ',' (rest ++ ",".intercalate r)).length ≠ columns.length by omega)
        refine ⟨.wrongWidth (1 + rows.length)
          (Text.fields ',' (rest ++ ",".intercalate r)).length columns.length, ?_⟩
        rw [hrows, decodeRows, hrow]
        rfl
      · cases h

end Sheet

end SheetStore
