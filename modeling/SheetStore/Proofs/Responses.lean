import SheetStore.Proofs.Session
import SheetStore.Proofs.Query.Answers
import SheetStore.Proofs.Statement.Failures

/-!
# Responses that can be read back

A client reads a response line by line.  What it needs is that a refusal is one line, and that the
lines of a selection can be cut into their values again (`response_framed`).

The command of a line has no line feed, since a line is read up to the first one
(`oneLine_command`).  What a refusal shows of the command is then on one line, and what comes from
files is quoted.  A selection succeeds only on sheets that can be read, where no value holds a comma
or a line feed, and its fields have passed their check (`of_execute_rows`).  So its text is that of a
sheet, and the lines of a sheet can be cut (`exists_lines_encode`).
-/

namespace SheetStore

/-- The text of a selection without empty rows is that of a sheet. -/
theorem Outcome.payload?_rows (fields : List String) {rows : List Record}
    (h : ∀ r ∈ rows, r ≠ []) :
    (Outcome.rows fields rows).payload? = some (Sheet.encode fields rows) := by
  have hfilter : rows.filter (!·.isEmpty) = rows :=
    List.filter_eq_self.2 fun r hr => by simp [h r hr]
  rw [payload?, hfilter, Sheet.encode]

/-- The lines of a sheet are cut into its values again if they can stand on a line. -/
theorem Sheet.exists_lines_encode {columns : List String} {sheet : Sheet}
    (hne : ∀ r ∈ columns :: sheet, r ≠ []) (hcells : ∀ r ∈ columns :: sheet, ∀ v ∈ r, IsCell v) :
    ∃ lines, Text.fields '\n' (encode columns sheet) = lines ++ [""] ∧
      lines.map (Text.fields ',') = columns :: sheet := by
  refine ⟨(columns :: sheet).map (",".intercalate ·), ?_, ?_⟩
  · exact fields_encode fun r hr v hv => (hcells r hr v hv).2
  · have hcut : ∀ r ∈ columns :: sheet, Text.fields ',' (",".intercalate r) = r := fun r hr =>
      Text.fields_intercalate (hne r hr) fun v hv => (hcells r hr v hv).1
    rw [List.map_map]
    exact (List.map_congr_left hcut).trans (List.map_id _)

namespace Database

/-- A selection that succeeds answers rows with a value per field, and it has a field. -/
theorem of_execute_rows {db : Database} (hvalid : db.schema.validate = .ok ()) {line : String}
    {files after : FileTree} {fields : List String} {rows : List Record}
    (h : db.execute line files = .ok (.rows fields rows) after) :
    fields ≠ [] ∧ (∀ field ∈ fields, IsCell field) ∧
      ∀ values ∈ rows, values.length = fields.length ∧ ∀ v ∈ values, IsCell v := by
  obtain ⟨statement, left, hparse, hrun⟩ := of_bind_eq_ok h
  obtain ⟨hparse, -⟩ := Storage.of_reading_ok hparse
  cases statement with
  | select requested tables text =>
      obtain ⟨condition, _, -, hrun⟩ := of_bind_eq_ok hrun
      obtain ⟨_, _, -, hrun⟩ := of_bind_eq_ok hrun
      obtain ⟨records, _, hselect, hpure⟩ := of_bind_eq_ok hrun
      cases hpure
      obtain ⟨ts, hts, hselect⟩ := of_bind_ok (Storage.of_reading_ok hselect).1
      have hproper : ∀ t ∈ ts, t.Proper := fun t ht =>
        proper_of_table? hvalid (table?_of_mem_tables hts ht)
      exact ⟨Statement.fields_ne_nil_of_parse hparse, Query.cells_of_select hproper hselect⟩
  | insert table values =>
      obtain ⟨_, _, -, hrun⟩ := of_bind_eq_ok hrun
      obtain ⟨_, _, -, hpure⟩ := of_bind_eq_ok hrun
      cases hpure
  | delete tables =>
      obtain ⟨_, _, -, hpure⟩ := of_bind_eq_ok hrun
      cases hpure
  | deleteWhere tables text =>
      obtain ⟨_, _, -, hrun⟩ := of_bind_eq_ok hrun
      obtain ⟨_, _, -, hpure⟩ := of_bind_eq_ok hrun
      cases hpure

end Database

namespace Session

open Text Database

variable {db : Database} {input bytes rest : List UInt8} {ended : Bool} {text : String}

/-! ## Commands -/

/-- A line feed ends a line. -/
theorem lineFeed_not_mem_dropLast (h : nextLine input = .line bytes ended rest) :
    lineFeed ∉ bytes.dropLast := by
  have hbody : lineFeed ∉ input.takeWhile (· != lineFeed) := by
    intro hmem
    have := List.mem_takeWhile_imp hmem
    simp at this
  rw [nextLine] at h
  split at h
  · cases h
  · split at h
    · cases h
      rwa [List.dropLast_concat]
    · split at h
      · cases h
      · cases h
        exact mt (List.dropLast_sublist _).mem hbody

/-- The command of a line is on one line. -/
theorem oneLine_command (hline : nextLine input = .line bytes ended rest)
    (htext : text? bytes = some text) : OneLine (command text) := by
  have hbytes := lineFeed_not_mem_dropLast hline
  rw [text?_eq_some.1 htext, bytesOf] at hbytes
  rw [OneLine, command, String.toList_ofList]
  rcases List.eq_nil_or_concat text.toList with hnil | ⟨front, c, hconcat⟩
  · rw [hnil]
    exact List.not_mem_nil
  · rw [List.concat_eq_append] at hconcat
    rw [hconcat, List.flatMap_append, List.flatMap_singleton,
      List.dropLast_append_of_ne_nil (by simp)] at hbytes
    have hfront : '\n' ∉ front := fun hmem =>
      hbytes (List.mem_append_left _ (List.mem_flatMap.2 ⟨'\n', hmem, by decide⟩))
    rw [hconcat]
    intro hmem
    cases hc : (c == '\n' || c == '\r') with
    | true =>
        rw [dropWhileEnd_eq_rdropWhile, List.rdropWhile_concat_pos _ front c hc] at hmem
        exact hfront (mem_of_mem_dropWhileEnd hmem)
    | false =>
        rcases List.mem_append.1 (mem_of_mem_dropWhileEnd hmem) with hmem | hmem
        · exact hfront hmem
        · rw [← List.mem_singleton.1 hmem] at hc
          cases hc

/-! ## Responses -/

/-- The response to a selection has its text after two lines of their own. -/
theorem success_rows (fields : List String) {rows : List Record} (h : ∀ r ∈ rows, r ≠ []) :
    success (.rows fields rows)
      = "command executed successfully\noutput:\n" ++ Sheet.encode fields rows := by
  have hpayload := Outcome.payload?_rows fields h
  have hhead : "command executed successfully\n" ++ "output:\n"
      = "command executed successfully\noutput:\n" := by simp
  unfold success
  split
  · rename_i hnone
    cases hpayload.symm.trans hnone
  · rename_i payload hsome
    cases hpayload.symm.trans hsome
    rw [Sheet.getLast?_encode, if_pos rfl, String.append_empty, ← String.append_assoc, hhead]

/-- Responses are framed.  If the command of a line succeeds with rows, they have a value per field,
no field or value holds a comma or a line feed, and the lines of the response after the first two are
cut into the fields and the rows again.  If it fails, the response is one line. -/
theorem response_framed (hvalid : db.schema.validate = .ok ())
    (hline : nextLine input = .line bytes ended rest) (htext : text? bytes = some text)
    (files : FileTree) :
    (∀ fields rows after, db.execute (command text) files = .ok (.rows fields rows) after →
      1 ≤ fields.length ∧ (∀ field ∈ fields, IsCell field) ∧
      (∀ values ∈ rows, values.length = fields.length ∧ ∀ v ∈ values, IsCell v) ∧
      ∃ payload lines, (Outcome.rows fields rows).payload? = some payload ∧
        (respond db (command text) files).1
          = "command executed successfully\noutput:\n" ++ payload ∧
        Text.fields '\n' payload = lines ++ [""] ∧ lines.length = 1 + rows.length ∧
        lines.map (Text.fields ',') = fields :: rows) ∧
    (OneLine db.root.text →
      ∀ failure after, db.execute (command text) files = .error failure after →
        OneLine failure.message ∧
        (respond db (command text) files).1 = "error: " ++ failure.message ++ "\n") := by
  refine ⟨fun fields rows after h => ?_, fun hroot failure after h => ?_⟩
  · obtain ⟨hne, hfields, hrows⟩ := of_execute_rows hvalid h
    have hnonempty : ∀ values ∈ rows, values ≠ [] := by
      rintro values hvalues rfl
      exact hne (List.length_eq_zero_iff.1 (hrows _ hvalues).1.symm)
    have hcells : ∀ values ∈ fields :: rows, ∀ v ∈ values, IsCell v :=
      List.forall_mem_cons.2 ⟨hfields, fun values hvalues => (hrows values hvalues).2⟩
    obtain ⟨lines, hpayload, hcut⟩ :=
      Sheet.exists_lines_encode (List.forall_mem_cons.2 ⟨hne, hnonempty⟩) hcells
    refine ⟨List.length_pos_iff.2 hne, hfields, hrows, Sheet.encode fields rows, lines,
      Outcome.payload?_rows fields hnonempty, ?_, hpayload, ?_, hcut⟩
    · rw [respond_eq, h]
      exact success_rows fields hnonempty
    · have hlen := congrArg List.length hcut
      rw [List.length_map, List.length_cons] at hlen
      omega
  · refine ⟨oneLine_message_of_execute hvalid hroot (oneLine_command hline htext) h, ?_⟩
    rw [respond_eq, h]
    rfl

/-- A selection from a table that is named twice, and a field that is refused. -/
theorem sample_response_framed :
    let files := stateOf (sample.insert "beer" ["Duvel", "Ale"]
      (stateOf (sample.ensure FileTree.empty)))
    (∃ payload lines, (respond sample "SELECT beer.style, beer.name FROM beer, beer" files).1
        = "command executed successfully\noutput:\n" ++ payload ∧
      Text.fields '\n' payload = lines ++ [""] ∧
      lines.map (Text.fields ',') = [["beer.style", "beer.name"], ["Ale", "Duvel"]]) ∧
    (respond sample "SELECT beer.hops FROM beer" files).1
      = "error: field beer.hops is not valid: no such column in the table\n" := by
  intro files
  have hselect : IsLine (bytesOf "SELECT beer.style, beer.name FROM beer, beer\n") :=
    ⟨bytesOf "SELECT beer.style, beer.name FROM beer, beer", by decide +kernel⟩
  have hrefuse : IsLine (bytesOf "SELECT beer.hops FROM beer\n") :=
    ⟨bytesOf "SELECT beer.hops FROM beer", by decide +kernel⟩
  have hrows : answerOf (sample.execute "SELECT beer.style, beer.name FROM beer, beer" files)
      = .ok (.rows ["beer.style", "beer.name"] [["Ale", "Duvel"]]) := by decide +kernel
  have hfails : answerOf (sample.execute "SELECT beer.hops FROM beer" files)
      = .error (.invalidField "beer.hops" .noSuchColumn) := by decide +kernel
  constructor
  · obtain ⟨-, -, -, payload, lines, -, hresponse, hpayload, -, hcut⟩ :=
      (response_framed validate_sample (nextLine_append hselect []) (text?_eq_some.2 rfl) files).1
        _ _ _ (eq_ok_of_answerOf hrows)
    exact ⟨payload, lines, hresponse, hpayload, hcut⟩
  · obtain ⟨-, hresponse⟩ :=
      (response_framed validate_sample (nextLine_append hrefuse []) (text?_eq_some.2 rfl) files).2
        (by decide) _ _ (eq_error_of_answerOf hfails)
    exact hresponse.trans (by decide +kernel)

end Session

end SheetStore
