import SheetStore.Proofs.Sheet.Exactness

/-!
# What writing a sheet back does to its text

A sheet that was read and is written back has its text with other line endings and nothing else
changed.  `Text.normalized` says which: every carriage return and line feed together becomes a line
feed, in one pass, and a text without a line feed at its end gets one.  The lines of a text with a
line feed after each are the text so normalized (`Text.join_lines`), and what is written for a sheet
are the lines that were read for it, because joining the fields of a line gives the line again.

Reading looks at the lines alone, and the tests that it makes are tests on the header as it stands
and on the number of commas of each later line (`Sheet.exists_decode_iff`).
-/

namespace SheetStore

namespace Text

/-! ## Line endings -/

/-- The text with a line feed in place of every carriage return and line feed. -/
def withoutReturns : List Char → List Char
  | '\r' :: '\n' :: rest => '\n' :: withoutReturns rest
  | c :: rest => c :: withoutReturns rest
  | [] => []

/-- The text with a line feed at its end. -/
def ended (s : List Char) : List Char := if s.getLast? = some '\n' then s else s ++ ['\n']

/-- The text with plain line endings, also at its end. -/
def normalized (s : String) : String := String.ofList (ended (withoutReturns s.toList))

/-- A text is a last line without a line feed, or a line in front of a text. -/
theorem induction_on_lines {motive : List Char → Prop} (s : List Char)
    (last : ∀ line, '\n' ∉ line → motive line)
    (line : ∀ line rest, '\n' ∉ line → motive rest → motive (line ++ '\n' :: rest)) : motive s := by
  have go : ∀ parts : List (List Char), parts ≠ [] → (∀ part ∈ parts, '\n' ∉ part) →
      motive (['\n'].intercalate parts) := by
    intro parts hne hfree
    induction parts with
    | nil => exact absurd rfl hne
    | cons part rest ih =>
        rw [List.forall_mem_cons] at hfree
        by_cases hrest : rest = []
        · rw [hrest, List.intercalate_singleton]
          exact last part hfree.1
        · rw [List.intercalate_cons_of_ne_nil hrest, List.append_assoc, List.singleton_append]
          exact line part _ hfree.1 (ih hrest hfree.2)
  have hjoin : ['\n'].intercalate (s.splitOn '\n') = s := List.intercalate_splitOn '\n'
  rw [← hjoin]
  exact go _ (List.splitOn_ne_nil '\n' s) fun part hpart => (of_mem_splitOn hpart).1

theorem withoutReturns_of_not_mem {s : List Char} (h : '\n' ∉ s) : withoutReturns s = s := by
  induction s with
  | nil => rfl
  | cons c rest ih =>
      rw [List.mem_cons, not_or] at h
      have hne : ∀ after, rest ≠ '\n' :: after := by
        rintro after rfl
        exact h.2 List.mem_cons_self
      rw [withoutReturns, ih h.2]
      exact fun after _ hrest => hne after hrest

/-- Of a complete line a return at its end is left out. -/
theorem withoutReturns_line {line : List Char} (rest : List Char) (h : '\n' ∉ line) :
    withoutReturns (line ++ '\n' :: rest) = dropReturn line ++ '\n' :: withoutReturns rest := by
  induction line with
  | nil => simp [withoutReturns, dropReturn]
  | cons c line ih =>
      rw [List.mem_cons, not_or] at h
      cases line with
      | nil =>
          by_cases hc : c = '\r'
          · subst hc
            rfl
          · simp [withoutReturns, dropReturn, hc]
      | cons d line =>
          have hd : d ≠ '\n' := fun heq => h.2 (heq ▸ List.mem_cons_self)
          have hdrop : dropReturn (c :: d :: line) = c :: dropReturn (d :: line) := by
            rw [dropReturn, dropReturn, List.getLast?_cons_cons]
            split <;> rfl
          have hstep : withoutReturns (c :: (d :: line ++ '\n' :: rest))
              = c :: withoutReturns (d :: line ++ '\n' :: rest) := by
            rw [withoutReturns]
            rintro after - heq
            exact hd (List.cons.inj heq).1
          rw [hdrop, List.cons_append, hstep, ih h.2, List.cons_append]

theorem ended_cons_append (front : List Char) {rest : List Char} (hne : rest ≠ []) :
    ended (front ++ '\n' :: rest) = front ++ '\n' :: ended rest := by
  have hlast : (front ++ '\n' :: rest).getLast? = rest.getLast? := by
    rw [List.getLast?_append, List.getLast?_cons, List.getLast?_eq_some_getLast hne]
    rfl
  rw [ended, ended, hlast]
  split
  · rfl
  · rw [List.append_assoc, List.cons_append]

theorem withoutReturns_ne_nil {s : List Char} (h : s ≠ []) : withoutReturns s ≠ [] := by
  unfold withoutReturns
  split <;> simp_all

/-- The lines of a text, each with a line feed after it, are the text with plain line endings. -/
theorem join_lines {s : String} (hne : s ≠ "") :
    String.join ((lines s).map (· ++ "\n")) = normalized s := by
  obtain ⟨chars, rfl⟩ : ∃ chars, s = String.ofList chars := ⟨_, String.ofList_toList.symm⟩
  induction chars using induction_on_lines with
  | last line hline =>
      have hlast : line.getLast? ≠ some '\n' := fun h => hline (List.mem_of_getLast? h)
      rw [lines_of_not_mem hne (by rwa [String.toList_ofList]), normalized, String.toList_ofList,
        withoutReturns_of_not_mem hline, ended, if_neg hlast, List.map_singleton,
        String.ofList_append]
      simp
  | line line rest hline ih =>
      have htext : String.ofList (line ++ '\n' :: rest)
          = String.ofList line ++ "\n" ++ String.ofList rest := by
        apply String.toList_inj.1
        simp
      have hlines : lines (String.ofList (line ++ '\n' :: rest))
          = String.ofList (dropReturn line) :: lines (String.ofList rest) := by
        rw [htext, lines_line (by rwa [String.toList_ofList]), String.toList_ofList]
      rw [hlines, List.map_cons, String.join_cons, normalized, String.toList_ofList,
        withoutReturns_line rest hline]
      by_cases hrest : rest = []
      · subst hrest
        simp [withoutReturns, ended]
      · rw [ended_cons_append _ (withoutReturns_ne_nil hrest), ih (by simpa using hrest),
          normalized, String.toList_ofList]
        apply String.toList_inj.1
        simp

/-! ## Fields of a line -/

/-- A line has the given fields if it joins them and none of them holds a comma. -/
theorem fields_eq_iff {line : String} {values : List String} : fields ',' line = values ↔
    values ≠ [] ∧ (∀ v ∈ values, ',' ∉ v.toList) ∧ line = ",".intercalate values := by
  constructor
  · rintro rfl
    exact ⟨fields_ne_nil ',' line, fun v hv => (of_mem_fields hv).1, (intercalate_fields line).symm⟩
  · rintro ⟨hne, hfree, rfl⟩
    exact fields_intercalate hne hfree

theorem length_fields (line : String) : (fields ',' line).length = line.toList.count ',' + 1 := by
  rw [fields, List.length_map, length_splitOn]

theorem lines_eq_nil_iff {s : String} : lines s = [] ↔ s = "" := by
  refine ⟨fun h => ?_, fun h => h ▸ lines_empty⟩
  by_contra hne
  have hjoin := join_lines hne
  rw [h, List.map_nil, normalized, ended] at hjoin
  split at hjoin <;> simp_all

end Text

namespace Sheet

variable {columns : List String} {text : String} {sheet : Sheet} {width : Nat}

/-! ## Which texts are read -/

/-- Lines are read if none is empty and each has the commas between as many values as there are
columns. -/
theorem exists_decodeRows_iff {lines : List String} (row : Nat) :
    (∃ sheet, decodeRows width row lines = .ok sheet) ↔
      ∀ line ∈ lines, line ≠ "" ∧ line.toList.count ',' + 1 = width := by
  induction lines generalizing row with
  | nil => exact iff_of_true ⟨[], rfl⟩ (List.forall_mem_nil _)
  | cons line rest ih =>
      rw [List.forall_mem_cons, ← ih (row + 1), ← Text.length_fields]
      constructor
      · rintro ⟨sheet, h⟩
        rw [decodeRows] at h
        obtain ⟨r, hrow, h⟩ := of_bind_ok h
        obtain ⟨records, hrest, -⟩ := of_bind_ok h
        obtain ⟨rfl, hlength⟩ := of_decodeRow hrow
        refine ⟨⟨?_, hlength⟩, records, hrest⟩
        rintro rfl
        cases hrow
      · rintro ⟨⟨hne, hlength⟩, records, hrest⟩
        have hrow : decodeRow width row line = .ok (Text.fields ',' line) := by
          simp [decodeRow, hne, hlength]
        refine ⟨Text.fields ',' line :: records, ?_⟩
        rw [decodeRows, hrow, hrest]
        rfl

/-- What reading asks of a text. -/
theorem exists_decode_iff : (∃ sheet, decode columns text = .ok sheet) ↔
    text ≠ "" ∧ columns ≠ [] ∧ (∀ c ∈ columns, ',' ∉ c.toList) ∧
      (Text.lines text).head? = some (",".intercalate columns) ∧
      ∀ line ∈ (Text.lines text).tail,
        line ≠ "" ∧ line.toList.count ',' = columns.length - 1 := by
  have hcommas : columns ≠ [] → ∀ line : String,
      line.toList.count ',' + 1 = columns.length ↔ line.toList.count ',' = columns.length - 1 := by
    intro hne line
    have := List.length_pos_iff.2 hne
    omega
  rw [decode, ← Text.lines_eq_nil_iff.ne]
  cases Text.lines text with
  | nil => simp
  | cons header rows =>
      simp only [List.head?_cons, List.tail_cons, Option.some.injEq]
      constructor
      · rintro ⟨sheet, h⟩
        split at h
        · rename_i hheader
          obtain ⟨hne, hfree, hjoin⟩ := Text.fields_eq_iff.1 hheader
          refine ⟨List.cons_ne_nil _ _, hne, hfree, hjoin, fun line hline => ?_⟩
          obtain ⟨hblank, hcount⟩ := (exists_decodeRows_iff 1).1 ⟨sheet, h⟩ line hline
          exact ⟨hblank, (hcommas hne line).1 hcount⟩
        · cases h
      · rintro ⟨-, hne, hfree, hjoin, hrows⟩
        simp only [Text.fields_eq_iff.2 ⟨hne, hfree, hjoin⟩, if_true]
        refine (exists_decodeRows_iff 1).2 fun line hline => ?_
        exact ⟨(hrows line hline).1, (hcommas hne line).2 (hrows line hline).2⟩

/-! ## What is written for a text that was read -/

/-- A sheet that was read is written with the lines that were read. -/
theorem encode_of_decode (h : decode columns text = .ok sheet) :
    encode columns sheet = String.join ((Text.lines text).map (· ++ "\n")) := by
  rw [decode] at h
  split at h
  · cases h
  · rename_i header rows hlines
    split at h
    · rename_i hheader
      obtain ⟨-, -, rfl⟩ := Text.fields_eq_iff.1 hheader
      obtain ⟨rfl, -⟩ := lines_of_decodeRows h
      rw [hlines, List.map_cons, String.join_cons, List.map_map]
      rfl
    · cases h

/-- Writing a sheet back changes nothing but line endings.  Which texts are read is told by their
lines, and these are what stands before the line feeds of the text with plain line endings. -/
theorem rewritten_text (columns : List String) (text : String) :
    (∀ sheet, decode columns text = .ok sheet →
        encode columns sheet = Text.normalized text) ∧
      ((∃ sheet, decode columns text = .ok sheet) ↔
        text ≠ "" ∧ columns ≠ [] ∧ (∀ c ∈ columns, ',' ∉ c.toList) ∧
          (Text.lines text).head? = some (",".intercalate columns) ∧
          ∀ line ∈ (Text.lines text).tail,
            line ≠ "" ∧ line.toList.count ',' = columns.length - 1) ∧
      (text ≠ "" → Text.fields '\n' (Text.normalized text) = Text.lines text ++ [""]) := by
  have hempty : ∀ sheet, decode columns "" ≠ .ok sheet := fun _ h => by cases h
  refine ⟨fun sheet h => ?_, exists_decode_iff, fun hne => ?_⟩
  · have hne : text ≠ "" := fun heq => hempty sheet (heq ▸ h)
    rw [encode_of_decode h, Text.join_lines hne]
  · rw [← Text.join_lines hne]
    exact Text.fields_join_lines fun _ hline => Text.oneLine_of_mem_lines hline

/-- A sheet with returns before two line feeds, one more return at the end of a value and no line
feed at the end of the text. -/
theorem sample_rewritten_text :
    let columns := ["beer_pk", "name"]
    let text := "beer_pk,name\r\n1,Duvel\r\r\n2,Or\rval"
    ∃ sheet, decode columns text = .ok sheet ∧
      encode columns sheet = "beer_pk,name\n1,Duvel\r\n2,Or\rval\n" ∧
      Text.lines text = ["beer_pk,name", "1,Duvel\r", "2,Or\rval"] := by
  intro columns text
  have hlines : Text.lines text = ["beer_pk,name", "1,Duvel\r", "2,Or\rval"] := by decide +kernel
  obtain ⟨hencode, haccepts, -⟩ := rewritten_text columns text
  obtain ⟨sheet, hsheet⟩ := haccepts.2 ⟨by simp [text], by simp [columns], by simp [columns], by
    rw [hlines]; decide +kernel, by rw [hlines]; decide +kernel⟩
  refine ⟨sheet, hsheet, ?_, hlines⟩
  rw [hencode sheet hsheet]
  decide +kernel

end Sheet

end SheetStore
