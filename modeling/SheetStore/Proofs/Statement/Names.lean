import SheetStore.Statement.Parser
import SheetStore.Proofs.Messages
import SheetStore.Proofs.Statement.Rendering

/-!
# The names in a line

A statement names tables and, if it is a selection, fields.  The tables are words.  A field may be
anything that stands between two commas of the line, also nothing, as long as it consists of word
characters, points and blanks.  So a character that cannot stand in a word and does not occur in a
line occurs in none of its names (`not_mem_names_of_parse`).
-/

namespace SheetStore.Statement

open Text

/-- The names in a statement, first those of fields and then those of tables. -/
def names : Statement → List String
  | .select fields tables _ => fields ++ tables
  | .insert table _ => [table]
  | .delete tables => tables
  | .deleteWhere tables _ => tables

variable {line : String} {s rest : List Char} {statement : Statement}

/-! ## Tables -/

theorem isWord_of_word? {word : List Char} (h : word? s = some (word, rest)) : IsWord word := by
  simp only [word?, List.isEmpty_iff] at h
  split at h
  · cases h
  · rename_i hne
    cases h
    exact ⟨hne, List.all_eq_true.1 List.all_takeWhile⟩

theorem isWord_of_names? {tables : List String} (h : names? s = some (tables, rest)) :
    ∀ table ∈ tables, IsWord table.toList := by
  fun_induction names? s generalizing tables rest with
  | case1 => cases h
  | case2 => cases h
  | case3 s word after hword more hmore later last hlater ih =>
      cases h
      rw [List.forall_mem_cons, String.toList_ofList]
      exact ⟨isWord_of_word? hword, ih hlater⟩
  | case4 s word after hword hmore =>
      cases h
      rw [List.forall_mem_singleton, String.toList_ofList]
      exact isWord_of_word? hword

theorem isWord_of_from? {tables : List String} {condition : Option String}
    (h : from? s = some (tables, condition)) : ∀ table ∈ tables, IsWord table.toList := by
  obtain ⟨scope, -, h⟩ := Option.bind_eq_some_iff.1 h
  rw [scope?] at h
  split at h
  · cases h
  · rename_i found after hnames
    obtain ⟨_, -, heq⟩ := Option.map_eq_some_iff.1 h
    cases heq
    exact isWord_of_names? hnames

/-! ## Fields -/

theorem fieldList_ne_nil (s : List Char) : fieldList s ≠ [] :=
  mt List.map_eq_nil_iff.1 (List.splitOn_ne_nil ',' s)

theorem mem_of_mem_fieldList {field : String} (h : field ∈ fieldList s) :
    ∀ c ∈ field.toList, c ∈ s := by
  obtain ⟨part, hpart, rfl⟩ := List.mem_map.1 h
  rw [String.toList_ofList]
  exact fun c hc => (of_mem_splitOn hpart).2 c (mem_of_mem_strip hc)

/-- The fields end somewhere before the tables. -/
theorem of_selectionFrom? {passed : List Char} (h : selectionFrom? passed s = some statement) :
    ∃ front tables condition, statement = .select (fieldList front) tables condition ∧
      (∀ c ∈ front, c ∈ passed ∨ c ∈ s) ∧ ∀ table ∈ tables, IsWord table.toList := by
  have hlonger {passed rest front : List Char} {d : Char}
      (hfront : ∀ c ∈ front, c ∈ d :: passed ∨ c ∈ rest) :
      ∀ c ∈ front, c ∈ passed ∨ c ∈ d :: rest := by
    intro c hc
    rcases hfront c hc with hc | hc
    · rcases List.mem_cons.1 hc with rfl | hc
      · exact .inr List.mem_cons_self
      · exact .inl hc
    · exact .inr (List.mem_cons_of_mem _ hc)
  fun_induction selectionFrom? passed s with
  | case1 => cases h
  | case2 => cases h
  | case3 passed d rest _ _ ih =>
      obtain ⟨front, tables, condition, hselect, hfront, htables⟩ := ih h
      exact ⟨front, tables, condition, hselect, hlonger hfront, htables⟩
  | case4 passed d rest _ _ tables condition hfrom =>
      cases h
      exact ⟨passed.reverse, tables, condition, rfl, fun c hc => .inl (List.mem_reverse.1 hc),
        isWord_of_from? hfrom⟩
  | case5 passed d rest _ _ hfrom ih =>
      obtain ⟨front, tables, condition, hselect, hfront, htables⟩ := ih h
      exact ⟨front, tables, condition, hselect, hlonger hfront, htables⟩

/-- A selection has fields, and they have only characters of the text. -/
theorem of_selection? (h : selection? s = some statement) :
    ∃ fields tables condition, statement = .select fields tables condition ∧ fields ≠ [] ∧
      (∀ field ∈ fields, ∀ c ∈ field.toList, c ∈ s) ∧ ∀ table ∈ tables, IsWord table.toList := by
  rw [selection?] at h
  split at h
  · cases h
  · rename_i body hbody
    split at h
    · rename_i found hfound
      cases h
      obtain ⟨front, tables, condition, rfl, hfront, htables⟩ := of_selectionFrom? hfound
      refine ⟨_, tables, condition, rfl, fieldList_ne_nil front, fun field hfield c hc => ?_,
        htables⟩
      exact mem_of_mem_blankRun? hbody c
        ((hfront c (mem_of_mem_fieldList hfield c hc)).resolve_left List.not_mem_nil)
    · split at h
      · cases h
      · obtain ⟨⟨tables, condition⟩, hfrom, rfl⟩ := Option.map_eq_some_iff.1 h
        exact ⟨[""], tables, condition, rfl, List.cons_ne_nil _ _,
          List.forall_mem_singleton.2 nofun, isWord_of_from? hfrom⟩

/-! ## Statements -/

theorem isWord_of_insertion? {table : String} {text : List Char}
    (h : insertion? s = some (table, text)) : IsWord table.toList := by
  obtain ⟨_, -, h⟩ := Option.bind_eq_some_iff.1 h
  obtain ⟨⟨word, rest⟩, hword, h⟩ := Option.bind_eq_some_iff.1 h
  obtain ⟨_, -, h⟩ := Option.bind_eq_some_iff.1 h
  obtain ⟨_, -, h⟩ := Option.bind_eq_some_iff.1 h
  obtain ⟨_, -, heq⟩ := Option.map_eq_some_iff.1 h
  cases heq
  rw [String.toList_ofList]
  exact isWord_of_word? hword

theorem isWord_of_deletion? (h : deletion? s = some statement) :
    ∀ table ∈ statement.names, IsWord table.toList := by
  obtain ⟨⟨tables, condition⟩, hscope, rfl⟩ := Option.map_eq_some_iff.1 h
  obtain ⟨_, -, hfrom⟩ := Option.bind_eq_some_iff.1 hscope
  cases condition <;> exact isWord_of_from? hfrom

/-- A line that is read is one of the statement forms. -/
theorem of_parse (h : parse line = .ok statement) :
    (∃ rest, (∀ c ∈ rest, c ∈ line.toList) ∧ selection? rest = some statement) ∨
      (∃ rest table text all, insertion? rest = some (table, text) ∧
        statement = .insert table all) ∨
      ∃ rest, deletion? rest = some statement := by
  rw [parse] at h
  split at h
  · rename_i found hselect
    cases h
    obtain ⟨rest, hkeyword, hselect⟩ := Option.bind_eq_some_iff.1 hselect
    exact .inl ⟨rest, fun c hc => mem_of_mem_strip (mem_of_mem_keyword? hkeyword c hc), hselect⟩
  · split at h
    · rename_i table text hinsert
      obtain ⟨rest, -, hinsert⟩ := Option.bind_eq_some_iff.1 hinsert
      obtain ⟨all, rfl⟩ : ∃ all, statement = .insert table all := by
        cases hvalues : values text with
        | error failure =>
            rw [hvalues] at h
            cases h
        | ok all =>
            rw [hvalues] at h
            cases h
            exact ⟨all, rfl⟩
      exact .inr (.inl ⟨rest, table, text, all, hinsert, rfl⟩)
    · split at h
      · rename_i found hdelete
        cases h
        obtain ⟨rest, -, hdelete⟩ := Option.bind_eq_some_iff.1 hdelete
        exact .inr (.inr ⟨rest, hdelete⟩)
      · cases h

/-- A line that is not read shows nothing in its failure. -/
theorem shown_of_parse {failure : Failure} (h : parse line = .error failure) :
    failure.shown = [] := by
  rw [parse] at h
  split at h
  · cases h
  · split at h
    · rename_i text _
      have hvalues : values text = .error failure := by
        cases hvalues : values text with
        | error fault =>
            rw [hvalues] at h
            cases h
            rfl
        | ok all =>
            rw [hvalues] at h
            cases h
      rw [values] at hvalues
      split at hvalues
      · cases hvalues
        rfl
      · cases hvalues
    · split at h
      · cases h
      · cases h
        rfl

/-- A selection in a line has a field. -/
theorem fields_ne_nil_of_parse {fields tables : List String} {condition : Option String}
    (h : parse line = .ok (.select fields tables condition)) : fields ≠ [] := by
  rcases of_parse h with ⟨rest, -, hselect⟩ | ⟨rest, table, text, all, -, heq⟩ | ⟨rest, hdelete⟩
  · obtain ⟨_, _, _, heq, hne, -⟩ := of_selection? hselect
    cases heq
    exact hne
  · cases heq
  · obtain ⟨⟨tables, condition⟩, -, heq⟩ := Option.map_eq_some_iff.1 hdelete
    cases condition <;> cases heq

/-- A name in a line has only word characters and characters of the line. -/
theorem not_mem_names_of_parse (h : parse line = .ok statement) {c : Char}
    (hword : isWordChar c = false) (hline : c ∉ line.toList) :
    ∀ name ∈ statement.names, c ∉ name.toList := by
  have hfree {name : String} (h : IsWord name.toList) : c ∉ name.toList := by
    intro hc
    rw [h.2 c hc] at hword
    cases hword
  rcases of_parse h with ⟨rest, hrest, hselect⟩ | ⟨rest, table, text, all, hinsert, rfl⟩ |
    ⟨rest, hdelete⟩
  · obtain ⟨fields, tables, condition, rfl, -, hfields, htables⟩ := of_selection? hselect
    intro name hname
    rcases List.mem_append.1 hname with hname | hname
    · exact fun hc => hline (hrest c (hfields name hname c hc))
    · exact hfree (htables name hname)
  · exact List.forall_mem_singleton.2 (hfree (isWord_of_insertion? hinsert))
  · exact fun name hname => hfree (isWord_of_deletion? hdelete name hname)

end SheetStore.Statement
