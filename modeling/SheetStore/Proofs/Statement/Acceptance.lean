import SheetStore.Proofs.Statement.Grammar

/-!
# The lines that are statements

The readers accept exactly the grammar: a line is of a form if and only if the readers of this form
go through (`mem_body_select`, `mem_body_insert`, `mem_body_delete`, `mem_body_deleteWhere`).  So
the forms exclude each other, and it makes no difference in which order they are tried
(`parse_form`).

The end of a line is taken off first, whatever the line holds before it.  That does not depend on
where the end begins: what is left of a text and an end has no characters of the end
(`mem_of_mem_withoutEnd_append`).

Only the fields of a selection need a search, since they may go on after a gap.  It finds their end
if there is one at all (`fieldsEnd_iff`).  Fields without anything to read are a case of their own:
they are blanks, and the gaps around them take two more (`exists_selection?_of_blanks`).
-/

namespace SheetStore.Statement

open Text Grammar Computability

variable {s rest : List Char} {l : Language Char} {c : Char}

/-! ## The end of a line -/

theorem mem_ending :
    s ∈ ending ↔ ∃ blanks, IsBlanks blanks ∧ (s = blanks ∨ s = blanks ++ [';']) := by
  rw [ending, Language.mem_mul]
  constructor
  · rintro ⟨blanks, hblanks, e, rfl | rfl, rfl⟩
    · exact ⟨blanks, hblanks, .inl (List.append_nil _)⟩
    · exact ⟨blanks, hblanks, .inr rfl⟩
  · rintro ⟨blanks, hblanks, rfl | rfl⟩
    · exact ⟨s, hblanks, [], .inl rfl, List.append_nil _⟩
    · exact ⟨blanks, hblanks, [';'], .inr rfl, rfl⟩

theorem isBlank_of_mem_ending (h : s ∈ ending) (hc : c ∈ s) : isBlank c = true ∨ c = ';' := by
  obtain ⟨blanks, hblanks, rfl | rfl⟩ := mem_ending.1 h
  · exact .inl (hblanks c hc)
  · exact (List.mem_append.1 hc).imp (hblanks c) List.mem_singleton.1

theorem stopsNames_of_mem_ending (h : s ∈ ending) : StopsNames s := by
  obtain ⟨blanks, hblanks, rfl | rfl⟩ := mem_ending.1 h
  · constructor
    · exact fun c hc => isWordChar_of_isBlank (hblanks c (List.mem_of_mem_head? hc))
    · intro more
      rw [dropBlanks, List.dropWhile_eq_nil_iff.2 hblanks]
      exact (List.cons_ne_nil _ _).symm
  · exact (IsEnd.semicolon hblanks).stopsNames

/-- A text is what it holds before its end, and an end. -/
theorem exists_withoutEnd_append (s : List Char) : ∃ e ∈ ending, s = withoutEnd s ++ e := by
  rw [withoutEnd]
  split
  · rename_i hlast
    obtain ⟨front, rfl⟩ := List.getLast?_eq_some_iff.1 hlast
    obtain ⟨blanks, heq, hblanks⟩ := exists_dropWhileEnd_append isBlank front
    rw [List.dropLast_concat]
    exact ⟨blanks ++ [';'], mem_ending.2 ⟨blanks, hblanks, .inr rfl⟩, by
      rw [← List.append_assoc, trimEnd, ← heq]⟩
  · obtain ⟨blanks, heq, hblanks⟩ := exists_dropWhileEnd_append isBlank s
    exact ⟨blanks, mem_ending.2 ⟨blanks, hblanks, .inl rfl⟩, heq⟩

/-- An end is dropped with the blanks before it, unless it is empty and the text itself ends with a
semicolon. -/
theorem withoutEnd_append_cases {e : List Char} (s : List Char) (he : e ∈ ending) :
    withoutEnd (s ++ e) = trimEnd s ∨
      ∃ front, s = front ++ [';'] ∧ withoutEnd (s ++ e) = trimEnd front := by
  obtain ⟨blanks, hblanks, rfl | rfl⟩ := mem_ending.1 he
  · rcases List.eq_nil_or_concat' e with rfl | ⟨front, b, rfl⟩
    · rw [List.append_nil, withoutEnd]
      split
      · rename_i hlast
        obtain ⟨front, rfl⟩ := List.getLast?_eq_some_iff.1 hlast
        exact .inr ⟨front, rfl, by rw [List.dropLast_concat]⟩
      · exact .inl rfl
    · have hlast : (s ++ (front ++ [b])).getLast? ≠ some ';' := by
        rw [← List.append_assoc, List.getLast?_concat]
        rintro heq
        cases heq
        exact absurd (hblanks ';' (by simp)) (by decide)
      rw [withoutEnd, if_neg hlast]
      exact .inl (trimEnd_append_blanks s hblanks)
  · rw [← List.append_assoc, withoutEnd, if_pos List.getLast?_concat, List.dropLast_concat]
    exact .inl (trimEnd_append_blanks s hblanks)

/-- What a text holds before its end has no characters of any end of it. -/
theorem mem_of_mem_withoutEnd_append {e : List Char} (he : e ∈ ending)
    (hc : c ∈ withoutEnd (s ++ e)) : c ∈ s := by
  rcases withoutEnd_append_cases s he with heq | ⟨front, rfl, heq⟩
  · rw [heq] at hc
    exact mem_of_mem_dropWhileEnd hc
  · rw [heq] at hc
    exact List.mem_append_left _ (mem_of_mem_dropWhileEnd hc)

/-- An end is dropped after a text that ends otherwise. -/
theorem withoutEnd_append_of_mem_ending {e : List Char} (h : Ends s) (hlast : s.getLast? ≠ some ';')
    (he : e ∈ ending) : withoutEnd (s ++ e) = s := by
  rcases withoutEnd_append_cases s he with heq | ⟨front, rfl, -⟩
  · rw [heq, trimEnd_of_ends h]
  · exact absurd List.getLast?_concat hlast

theorem withoutEnd_eq_nil_iff : withoutEnd s = [] ↔ s ∈ ending := by
  constructor
  · intro h
    obtain ⟨e, he, heq⟩ := exists_withoutEnd_append s
    rw [h, List.nil_append] at heq
    exact heq ▸ he
  · intro h
    refine List.eq_nil_iff_forall_not_mem.2 fun c hc => ?_
    exact List.not_mem_nil (mem_of_mem_withoutEnd_append (s := []) h hc)

/-! ## Tables and conditions -/

/-- Nothing but an end follows the tables. -/
theorem mem_ending_iff_where? : s ∈ ending ↔ where? s = some none := by
  rw [where?, ← withoutEnd_eq_nil_iff, ← List.isEmpty_iff]
  split
  · rename_i hempty
    exact iff_of_true hempty rfl
  · rename_i hempty
    refine iff_of_false hempty fun h => ?_
    obtain ⟨_, -, heq⟩ := Option.map_eq_some_iff.1 h
    cases heq

/-- A text with an end is read as a condition if it is in one line. -/
theorem mem_anyText_mul_ending : s ∈ anyText * ending ↔ ∃ text, condition? s = some text := by
  have hcondition : (∃ text, condition? s = some text) ↔ '\n' ∉ withoutEnd s := by
    rw [condition?]
    split <;> simp_all
  rw [hcondition, Language.mem_mul]
  constructor
  · rintro ⟨text, htext, e, he, rfl⟩ hmem
    exact htext (mem_of_mem_withoutEnd_append he hmem)
  · intro h
    obtain ⟨e, he, heq⟩ := exists_withoutEnd_append s
    exact ⟨withoutEnd s, h, e, he, heq.symm⟩

theorem absorbsBlanks_ending : AbsorbsBlanks ending := by
  intro s hs
  obtain ⟨blanks, hblanks, rfl | rfl⟩ := mem_ending.1 hs
  · rw [dropBlanks, List.dropWhile_eq_nil_iff.2 hblanks]
    exact mem_ending.2 ⟨[], List.forall_mem_nil _, .inl rfl⟩
  · rw [dropBlanks_append hblanks ⟨';', rfl, by decide⟩]
    exact mem_ending.2 ⟨[], List.forall_mem_nil _, .inr rfl⟩

theorem absorbsBlanks_anyText_mul_ending : AbsorbsBlanks (anyText * ending) := by
  intro s hs
  obtain ⟨text, htext, e, he, rfl⟩ := Language.mem_mul.1 hs
  rw [dropBlanks, List.dropWhile_append]
  split
  · exact Language.append_mem_mul (a := []) List.not_mem_nil (absorbsBlanks_ending e he)
  · exact Language.append_mem_mul (fun h => htext ((List.dropWhile_sublist _).mem h)) he

theorem mem_between {letters : List Char} (hletters : Solid letters) (hl : AbsorbsBlanks l) :
    s ∈ gap * (keyword letters * (gap * l)) ↔
      ∃ rest, between? letters s = some rest ∧ rest ∈ l := by
  rw [mem_gap_mul (absorbsBlanks_keyword_mul hletters)]
  simp only [mem_keyword_mul, mem_gap_mul hl, between?, Option.bind_eq_some_iff]
  constructor
  · rintro ⟨a, ha, b, hb, rest, hrest, hmem⟩
    exact ⟨rest, ⟨a, ha, b, hb, hrest⟩, hmem⟩
  · rintro ⟨rest, ⟨a, ha, b, hb, hrest⟩, hmem⟩
    exact ⟨a, ha, b, hb, rest, hrest, hmem⟩

/-- A condition is no end. -/
theorem not_mem_ending_of_where (h : s ∈ gap * (keyword ['w', 'h', 'e', 'r', 'e'] * l)) :
    s ∉ ending := by
  obtain ⟨blanks, -, t, ht, rfl⟩ := Language.mem_mul.1 h
  obtain ⟨spelled, hspelled, rest, -, rfl⟩ := Language.mem_mul.1 ht
  obtain ⟨c, letters, rfl, hfold, -⟩ := List.map_eq_cons_iff.1 hspelled
  intro hend
  rcases isBlank_of_mem_ending (c := c) hend (by simp) with hblank | rfl
  · rw [foldCase_of_isBlank hblank] at hfold
    subst hfold
    exact absurd hblank (by decide)
  · exact absurd hfold (by decide)

/-- A condition with an end follows the tables. -/
theorem mem_conditionPart_iff_where? :
    s ∈ conditionPart * ending ↔ ∃ text, where? s = some (some text) := by
  have hproduct : conditionPart * ending
      = gap * (keyword ['w', 'h', 'e', 'r', 'e'] * (gap * (anyText * ending))) := by
    simp only [conditionPart, mul_assoc]
  have hwhere : s ∈ conditionPart * ending ↔
      ∃ text, (between? ['w', 'h', 'e', 'r', 'e'] s).bind condition? = some text := by
    rw [hproduct, mem_between solid_where absorbsBlanks_anyText_mul_ending]
    simp only [mem_anyText_mul_ending, Option.bind_eq_some_iff]
    constructor
    · rintro ⟨rest, hrest, text, htext⟩
      exact ⟨text, rest, hrest, htext⟩
    · rintro ⟨text, rest, hrest, htext⟩
      exact ⟨rest, hrest, text, htext⟩
  constructor
  · intro h
    obtain ⟨text, htext⟩ := hwhere.1 h
    have hnonempty : ¬ (withoutEnd s).isEmpty := by
      rw [List.isEmpty_iff, withoutEnd_eq_nil_iff]
      exact not_mem_ending_of_where (hproduct ▸ h)
    exact ⟨text, by rw [where?, if_neg hnonempty, htext, Option.map_some]⟩
  · rintro ⟨text, htext⟩
    rw [where?] at htext
    split at htext
    · cases htext
    · obtain ⟨_, hbind, heq⟩ := Option.map_eq_some_iff.1 htext
      exact hwhere.2 ⟨_, hbind⟩

theorem stopsNames_of_mem_conditionPart (h : s ∈ conditionPart * ending) : StopsNames s := by
  simp only [conditionPart, mul_assoc] at h
  obtain ⟨blanks, hblanks, t, ht, rfl⟩ := Language.mem_mul.1 h
  obtain ⟨spelled, hspelled, rest, -, rfl⟩ := Language.mem_mul.1 ht
  exact stopsNames_where hblanks hspelled rest

theorem scope?_eq_some_iff {tables : List String} {condition : Option String} :
    scope? s = some (tables, condition) ↔
      ∃ rest, names? s = some (tables, rest) ∧ where? rest = some condition := by
  rw [scope?]
  cases names? s with
  | none => simp
  | some found =>
      obtain ⟨first, rest⟩ := found
      simp only [Option.map_eq_some_iff, Option.some.injEq, Prod.mk.injEq]
      constructor
      · rintro ⟨_, hwhere, rfl, rfl⟩
        exact ⟨rest, ⟨rfl, rfl⟩, hwhere⟩
      · rintro ⟨_, ⟨rfl, rfl⟩, hwhere⟩
        exact ⟨condition, hwhere, rfl, rfl⟩

/-- Tables and what follows them are read if what follows is. -/
theorem mem_tablesPart_mul {p : Option String → Prop}
    (hl : ∀ t, t ∈ l ↔ ∃ condition, where? t = some condition ∧ p condition)
    (hstops : ∀ t ∈ l, StopsNames t) :
    s ∈ tablesPart * l ↔ ∃ tables condition, from? s = some (tables, condition) ∧ p condition := by
  simp only [tablesPart, mul_assoc]
  rw [mem_keyword_mul]
  simp only [mem_gap_mul absorbsBlanks_nameList_mul, mem_nameList_mul hstops, hl, from?,
    keywordThen?, Option.bind_eq_some_iff, scope?_eq_some_iff]
  constructor
  · rintro ⟨a, ha, b, hb, tables, rest, hnames, condition, hwhere, hp⟩
    exact ⟨tables, condition, ⟨b, ⟨a, ha, hb⟩, rest, hnames, hwhere⟩, hp⟩
  · rintro ⟨tables, condition, ⟨b, ⟨a, ha, hb⟩, rest, hnames, hwhere⟩, hp⟩
    exact ⟨a, ha, b, hb, tables, rest, hnames, condition, hwhere, hp⟩

/-! ## Deletions -/

theorem absorbsBlanks_tablesPart_mul : AbsorbsBlanks (tablesPart * l) := by
  rw [tablesPart, mul_assoc, mul_assoc]
  exact absorbsBlanks_keyword_mul solid_from

/-- A gap, tables and what follows them are read after `DELETE`. -/
theorem mem_gap_mul_tablesPart {p : Option String → Prop}
    (hl : ∀ t, t ∈ l ↔ ∃ condition, where? t = some condition ∧ p condition)
    (hstops : ∀ t ∈ l, StopsNames t) : s ∈ gap * (tablesPart * l) ↔
      ∃ tables condition, (blankRun? s).bind from? = some (tables, condition) ∧ p condition := by
  rw [mem_gap_mul absorbsBlanks_tablesPart_mul]
  simp only [mem_tablesPart_mul hl hstops, Option.bind_eq_some_iff]
  constructor
  · rintro ⟨rest, hrest, tables, condition, hfrom, hp⟩
    exact ⟨tables, condition, ⟨rest, hrest, hfrom⟩, hp⟩
  · rintro ⟨tables, condition, ⟨rest, hrest, hfrom⟩, hp⟩
    exact ⟨rest, hrest, tables, condition, hfrom, hp⟩

theorem mem_body_delete :
    s ∈ Form.delete.body ↔
      ∃ statement, deletion? s = some statement ∧ statement.form = .delete := by
  have hl : ∀ t, t ∈ ending ↔ ∃ condition, where? t = some condition ∧ condition = none :=
    fun t => by rw [mem_ending_iff_where?, exists_eq_right]
  rw [Form.body, mul_assoc, mem_gap_mul_tablesPart hl fun _ => stopsNames_of_mem_ending]
  constructor
  · rintro ⟨tables, _, hfrom, rfl⟩
    exact ⟨.delete tables, by rw [deletion?, hfrom]; rfl, rfl⟩
  · rintro ⟨statement, hdelete, hform⟩
    obtain ⟨⟨tables, condition⟩, hfrom, rfl⟩ := Option.map_eq_some_iff.1 hdelete
    cases condition with
    | none => exact ⟨tables, none, hfrom, rfl⟩
    | some text => cases hform

theorem mem_body_deleteWhere : s ∈ Form.deleteWhere.body ↔
    ∃ statement, deletion? s = some statement ∧ statement.form = .deleteWhere := by
  have hl : ∀ t, t ∈ conditionPart * ending ↔
      ∃ condition, where? t = some condition ∧ ∃ text, condition = some text := by
    intro t
    rw [mem_conditionPart_iff_where?]
    constructor
    · rintro ⟨text, htext⟩
      exact ⟨_, htext, text, rfl⟩
    · rintro ⟨_, htext, text, rfl⟩
      exact ⟨text, htext⟩
  rw [Form.body, mul_assoc, mul_assoc,
    mem_gap_mul_tablesPart hl fun _ => stopsNames_of_mem_conditionPart]
  constructor
  · rintro ⟨tables, _, hfrom, text, rfl⟩
    exact ⟨.deleteWhere tables text, by rw [deletion?, hfrom]; rfl, rfl⟩
  · rintro ⟨statement, hdelete, hform⟩
    obtain ⟨⟨tables, condition⟩, hfrom, rfl⟩ := Option.map_eq_some_iff.1 hdelete
    cases condition with
    | none => cases hform
    | some text => exact ⟨tables, some text, hfrom, text, rfl⟩

/-! ## Insertions -/

/-- What stands between parentheses up to the end of the line. -/
theorem mem_parenthesized : s ∈ symbol '(' * (anyText * (symbol ')' * ending)) ↔
    ∃ text, parenthesized? s = some text := by
  rw [mem_symbol_mul]
  constructor
  · rintro ⟨rest, rfl, hrest⟩
    obtain ⟨text, htext, t, ht, rfl⟩ := Language.mem_mul.1 hrest
    obtain ⟨e, rfl, he⟩ := mem_symbol_mul.1 ht
    have hends : Ends (text ++ [')']) := ends_concat (by decide) text
    have hbody : withoutEnd (text ++ ')' :: e) = text ++ [')'] := by
      rw [← List.singleton_append, ← List.append_assoc]
      exact withoutEnd_append_of_mem_ending hends (by simp) he
    have hfree : '\n' ∉ text := htext
    have hline : text.contains '\n' = false := by simpa using hfree
    exact ⟨text, by simp only [parenthesized?, hbody, List.getLast?_concat, List.dropLast_concat,
      hline, decide_true, Bool.not_false, Bool.and_self, if_true]⟩
  · rintro ⟨text, hopen⟩
    unfold parenthesized? at hopen
    split at hopen
    · rename_i rest
      dsimp only at hopen
      split at hopen
      · rename_i hbody
        rw [Bool.and_eq_true, decide_eq_true_iff, List.getLast?_eq_some_iff] at hbody
        obtain ⟨⟨body, hbody⟩, hline⟩ := hbody
        obtain ⟨e, he, hrest⟩ := exists_withoutEnd_append rest
        rw [hbody, List.dropLast_concat] at hline
        rw [hbody, List.append_assoc, List.singleton_append] at hrest
        have hfree : '\n' ∉ body := by simpa using hline
        refine ⟨rest, rfl, ?_⟩
        rw [hrest]
        exact Language.append_mem_mul hfree (mem_symbol_mul.2 ⟨e, rfl, he⟩)
      · cases hopen
    · cases hopen

theorem solid_values : Solid ['v', 'a', 'l', 'u', 'e', 's'] := solid_of_head (by decide) _

theorem mem_body_insert :
    s ∈ Form.insert.body ↔ ∃ table text, insertion? s = some (table, text) := by
  simp only [Form.body, mul_assoc]
  rw [mem_between (solid_of_head (by decide) _) absorbsBlanks_word_mul]
  simp only [mem_word_mul fun _ => isWordChar_of_mem_gap_mul,
    mem_gap_mul (absorbsBlanks_keyword_mul solid_values), mem_keyword_mul,
    mem_anyBlanks_mul (absorbsBlanks_symbol_mul (c := '(') (by decide)), mem_parenthesized,
    insertion?, Option.bind_eq_some_iff, Option.map_eq_some_iff, Prod.mk.injEq, Prod.exists]
  constructor
  · rintro ⟨a, ha, name, b, hb, d, hd, e, he, text, htext⟩
    exact ⟨_, _, a, ha, name, b, hb, d, hd, e, he, text, htext, rfl, rfl⟩
  · rintro ⟨_, _, a, ha, name, b, hb, d, hd, e, he, text, htext, rfl, rfl⟩
    exact ⟨a, ha, name, b, hb, d, hd, e, he, text, htext⟩

/-! ## Selections -/

/-- The fields end in the text, of which the characters before it are given in reverse: what comes
before some blank is field text that does not end with a blank, and the tables come after it. -/
def FieldsEnd (passed s : List Char) : Prop :=
  ∃ front b back d, s = front ++ b :: back ∧ (∀ c ∈ front, isFieldChar c = true) ∧
    isBlank b = true ∧ (front.reverse ++ passed).head? = some d ∧ isBlank d = false ∧
    ∃ scope, from? (dropBlanks back) = some scope

theorem not_fieldsEnd_nil {passed : List Char} : ¬ FieldsEnd passed [] := by
  rintro ⟨front, b, back, d, heq, -⟩
  exact absurd heq.symm (by simp)

/-- The fields end here or later. -/
theorem fieldsEnd_cons {passed : List Char} : FieldsEnd passed (c :: s) ↔
    (isBlank c = true ∧ (∃ d, passed.head? = some d ∧ isBlank d = false) ∧
      ∃ scope, from? (dropBlanks s) = some scope) ∨
    isFieldChar c = true ∧ FieldsEnd (c :: passed) s := by
  constructor
  · rintro ⟨front, b, back, d, heq, hfront, hb, hd, hblank, hscope⟩
    cases front with
    | nil =>
        cases heq
        exact .inl ⟨hb, ⟨d, hd, hblank⟩, hscope⟩
    | cons e front =>
        cases heq
        rw [List.forall_mem_cons] at hfront
        rw [List.reverse_cons, List.append_assoc, List.singleton_append] at hd
        exact .inr ⟨hfront.1, front, b, back, d, rfl, hfront.2, hb, hd, hblank, hscope⟩
  · rintro (⟨hc, ⟨d, hd, hblank⟩, hscope⟩ |
      ⟨hc, front, b, back, d, rfl, hfront, hb, hd, hblank, hscope⟩)
    · exact ⟨[], c, s, d, rfl, List.forall_mem_nil _, hc, hd, hblank, hscope⟩
    · refine ⟨c :: front, b, back, d, rfl, List.forall_mem_cons.2 ⟨hc, hfront⟩, hb, ?_, hblank,
        hscope⟩
      rwa [List.reverse_cons, List.append_assoc, List.singleton_append]

theorem isFieldChar_of_isBlank (h : isBlank c = true) : isFieldChar c = true := by
  simp [isFieldChar, h]

/-- A selection is found if and only if its fields end somewhere. -/
theorem fieldsEnd_iff {passed : List Char} :
    FieldsEnd passed s ↔ ∃ statement, selectionFrom? passed s = some statement := by
  fun_induction selectionFrom? passed s with
  | case1 passed =>
      refine iff_of_false not_fieldsEnd_nil ?_
      rintro ⟨_, hnone⟩
      cases hnone
  | case2 passed c rest hfield =>
      rw [Bool.not_eq_true'] at hfield
      have hc : isBlank c ≠ true := fun hc => by
        rw [isFieldChar_of_isBlank hc] at hfield
        cases hfield
      rw [fieldsEnd_cons]
      simp [hfield, hc]
  | case3 passed c rest hfield hgoes ih =>
      have hnot : ¬ (isBlank c = true ∧ ∃ d, passed.head? = some d ∧ isBlank d = false) := by
        rintro ⟨hc, d, hd, hblank⟩
        simp [hc, hd, hblank] at hgoes
      rw [fieldsEnd_cons, ← ih, ← and_assoc]
      simp_all
  | case4 passed c rest hfield hstops tables condition hfrom =>
      simp only [Bool.or_eq_true, Bool.not_eq_true', not_or, Bool.not_eq_false] at hstops
      obtain ⟨hc, hpassed⟩ := hstops
      refine iff_of_true (fieldsEnd_cons.2 (.inl ⟨hc, ?_, _, hfrom⟩)) ⟨_, rfl⟩
      cases hhead : passed.head? with
      | none => simp [hhead] at hpassed
      | some d => exact ⟨d, rfl, by simpa [hhead] using hpassed⟩
  | case5 passed c rest hfield hstops hfrom ih =>
      rw [Bool.not_eq_true', Bool.not_eq_false] at hfield
      rw [fieldsEnd_cons, ← ih, hfrom]
      simp [hfield]

/-- The rest of the line after the fields. -/
theorem mem_scopePart : s ∈ tablesPart * ((1 + conditionPart) * ending) ↔
    ∃ scope, from? s = some scope := by
  have hproduct : (1 + conditionPart) * ending = ending + conditionPart * ending := by
    rw [add_mul, one_mul]
  have hl : ∀ t, t ∈ ending + conditionPart * ending ↔
      ∃ condition, where? t = some condition ∧ True := by
    intro t
    rw [Language.mem_add, mem_ending_iff_where?, mem_conditionPart_iff_where?]
    simp only [and_true]
    exact (Option.exists (p := fun condition => where? t = some condition)).symm
  have hstops : ∀ t ∈ ending + conditionPart * ending, StopsNames t := fun t ht =>
    ht.elim stopsNames_of_mem_ending stopsNames_of_mem_conditionPart
  rw [hproduct, mem_tablesPart_mul hl hstops]
  simp only [and_true, Prod.exists]

/-- Fields with something to read end at the gap before the tables. -/
theorem exists_selection?_of_fields {blanks front gap' : List Char} {d : Char}
    (hgap : IsGap blanks) (hfront : ∀ c ∈ front, isFieldChar c = true) (hd : isFieldChar d = true)
    (hblank : isBlank d = false) (hgap' : IsGap gap')
    (hrest : rest ∈ tablesPart * ((1 + conditionPart) * ending)) :
    ∃ statement, selection? (blanks ++ (front ++ d :: (gap' ++ rest))) = some statement := by
  have hrun : blankRun? (blanks ++ (front ++ d :: (gap' ++ rest)))
      = some ((dropBlanks front ++ [d]) ++ (gap' ++ rest)) := by
    rw [blankRun?_gap_append hgap, dropBlanks_append_cons hblank, List.append_assoc,
      List.singleton_append]
  obtain ⟨b, more, rfl, hb, hmore⟩ := hgap'.exists_cons
  have hscope : ∃ scope, from? (dropBlanks (more ++ rest)) = some scope := by
    rw [dropBlanks, List.dropWhile_append_of_pos hmore]
    exact mem_scopePart.1 (absorbsBlanks_tablesPart_mul rest hrest)
  have hfields : ∀ c ∈ dropBlanks front ++ [d], isFieldChar c = true := by
    intro c hc
    rcases List.mem_append.1 hc with hc | hc
    · exact hfront c ((List.dropWhile_sublist _).mem hc)
    · exact List.mem_singleton.1 hc ▸ hd
  have hend : FieldsEnd [] ((dropBlanks front ++ [d]) ++ (b :: more ++ rest)) :=
    ⟨dropBlanks front ++ [d], b, more ++ rest, d, rfl, hfields, hb, by simp, hblank, hscope⟩
  obtain ⟨statement, hstatement⟩ := fieldsEnd_iff.1 hend
  exact ⟨statement, by simp only [selection?, hrun, hstatement]⟩

/-- With three blanks before the tables, one of them may be the fields. -/
theorem exists_selection?_of_blanks {blanks : List Char} (hblanks : IsBlanks blanks)
    (hlength : 3 ≤ blanks.length) (hrest : rest ∈ tablesPart * ((1 + conditionPart) * ending)) :
    ∃ statement, selection? (blanks ++ rest) = some statement := by
  have hgap : IsGap blanks := ⟨List.ne_nil_of_length_pos (by omega), hblanks⟩
  have hcount : ¬ ((blanks ++ rest).takeWhile isBlank).length < 3 := by
    rw [List.takeWhile_append_of_pos hblanks, List.length_append]
    omega
  obtain ⟨scope, hscope⟩ := mem_scopePart.1 (absorbsBlanks_tablesPart_mul rest hrest)
  cases hfound : selectionFrom? [] (dropBlanks rest) with
  | some statement =>
      exact ⟨statement, by simp only [selection?, blankRun?_gap_append hgap, hfound]⟩
  | none =>
      refine ⟨.select [""] scope.1 scope.2, ?_⟩
      simp only [selection?, blankRun?_gap_append hgap, hfound, hcount, if_false, hscope,
        Option.map_some]

/-- Three blanks or more are a gap, fields and another gap. -/
theorem mem_gap_mul_fieldText_mul {blanks : List Char} (hblanks : IsBlanks blanks)
    (hlength : 3 ≤ blanks.length) (hrest : rest ∈ l) :
    blanks ++ rest ∈ gap * (fieldText * (gap * l)) := by
  obtain _ | ⟨a, _ | ⟨b, _ | ⟨d, more⟩⟩⟩ := blanks
  · simp at hlength
  · simp at hlength
  · simp at hlength
  · simp only [IsBlanks, List.forall_mem_cons] at hblanks
    obtain ⟨ha, hb, hd, hmore⟩ := hblanks
    have hfirst : [a] ∈ gap := ⟨List.cons_ne_nil _ _, List.forall_mem_singleton.2 ha⟩
    have hfield : [b] ∈ fieldText :=
      ⟨List.cons_ne_nil _ _, List.forall_mem_singleton.2 (isFieldChar_of_isBlank hb)⟩
    have hlast : d :: more ∈ gap := ⟨List.cons_ne_nil _ _, List.forall_mem_cons.2 ⟨hd, hmore⟩⟩
    show [a] ++ ([b] ++ (d :: more ++ rest)) ∈ _
    exact Language.append_mem_mul hfirst
      (Language.append_mem_mul hfield (Language.append_mem_mul hlast hrest))

/-- However the text is taken apart, a selection is found. -/
theorem exists_selection?_of_mem
    (h : s ∈ gap * (fieldText * (gap * (tablesPart * ((1 + conditionPart) * ending))))) :
    ∃ statement, selection? s = some statement := by
  obtain ⟨blanks, hgap, _, ⟨fields, hfields, _, ⟨blanks', hgap', rest, hrest, rfl⟩, rfl⟩, rfl⟩ :=
    Language.mem_mul.1 h
  by_cases hblank : IsBlanks fields
  · have hall : IsBlanks (blanks ++ (fields ++ blanks')) := by
      simp only [IsBlanks, List.forall_mem_append]
      exact ⟨hgap.2, hblank, hgap'.2⟩
    have hlength : 3 ≤ (blanks ++ (fields ++ blanks')).length := by
      have := List.length_pos_iff.2 hgap.1
      have := List.length_pos_iff.2 hfields.1
      have := List.length_pos_iff.2 hgap'.1
      simp only [List.length_append]
      omega
    have hselect := exists_selection?_of_blanks hall hlength hrest
    simpa only [List.append_assoc] using hselect
  · -- the blanks at the end of the fields belong to the gap before the tables
    obtain ⟨front, d, more, rfl, hd, hmore⟩ := exists_last_of_not_isBlanks hblank
    have hchars := hfields.2
    rw [List.forall_mem_append, List.forall_mem_cons] at hchars
    have hends : IsGap (more ++ blanks') := by
      refine ⟨List.append_ne_nil_of_right_ne_nil _ hgap'.1, ?_⟩
      simp only [IsBlanks, List.forall_mem_append]
      exact ⟨hmore, hgap'.2⟩
    have hselect := exists_selection?_of_fields hgap hchars.1 hchars.2.1 hd hends hrest
    simpa only [List.append_assoc, List.cons_append] using hselect

/-- A selection that is found takes the text apart. -/
theorem mem_of_selection? {statement : Statement} (h : selection? s = some statement) :
    s ∈ gap * (fieldText * (gap * (tablesPart * ((1 + conditionPart) * ending)))) := by
  rw [selection?] at h
  split at h
  · cases h
  · rename_i body hbody
    split at h
    · rename_i found hfound
      obtain ⟨front, b, back, d, rfl, hfront, hb, hd, -, hscope⟩ :=
        fieldsEnd_iff.2 ⟨found, hfound⟩
      obtain ⟨blanks, hgap, rfl⟩ := exists_gap_of_blankRun? hbody
      have hne : front ≠ [] := by
        rintro rfl
        cases hd
      have hrest : b :: back ∈ gap * (tablesPart * ((1 + conditionPart) * ending)) :=
        (mem_gap_mul absorbsBlanks_tablesPart_mul).2
          ⟨dropBlanks back, by rw [blankRun?, if_pos hb], mem_scopePart.2 hscope⟩
      exact Language.append_mem_mul hgap (Language.append_mem_mul ⟨hne, hfront⟩ hrest)
    · split at h
      · cases h
      · rename_i hlength
        obtain ⟨scope, hscope, -⟩ := Option.map_eq_some_iff.1 h
        have htext : s.takeWhile isBlank ++ body = s := by
          rw [← dropBlanks_of_blankRun? hbody, dropBlanks, List.takeWhile_append_dropWhile]
        rw [← htext]
        exact mem_gap_mul_fieldText_mul (fun c hc => List.mem_takeWhile_imp hc)
          (Nat.le_of_not_lt hlength) (mem_scopePart.2 ⟨scope, hscope⟩)

theorem mem_body_select :
    s ∈ Form.select.body ↔ ∃ statement, selection? s = some statement := by
  simp only [Form.body, mul_assoc]
  exact ⟨exists_selection?_of_mem, fun ⟨_, hselect⟩ => mem_of_selection? hselect⟩

/-! ## Statements -/

variable {line : String}

theorem mem_language_iff {form : Form} :
    s ∈ form.language ↔ ∃ rest, keyword? form.keyword s = some rest ∧ rest ∈ form.body := by
  rw [Form.language, mem_keyword_mul]

theorem form_of_selection? {statement : Statement} (h : selection? s = some statement) :
    statement.form = .select := by
  obtain ⟨_, _, _, rfl, -⟩ := of_selection? h
  rfl

theorem form_of_deletion? {statement : Statement} (h : deletion? s = some statement) :
    statement.form = .delete ∨ statement.form = .deleteWhere := by
  obtain ⟨⟨tables, condition⟩, -, rfl⟩ := Option.map_eq_some_iff.1 h
  cases condition with
  | none => exact .inl rfl
  | some text => exact .inr rfl

/-- Values are refused only for a comma. -/
theorem of_values_error {text : List Char} {failure : Failure} (h : values text = .error failure) :
    failure = .commaInValue := by
  rw [values] at h
  split at h
  · cases h
    rfl
  · cases h

/-- A line of a form is read as a statement of that form, or it is an insertion with a comma in a
value. -/
theorem parse_of_mem_language {form : Form} (h : trim line.toList ∈ form.language) :
    (∃ statement, parse line = .ok statement ∧ statement.form = form) ∨
      form = .insert ∧ parse line = .error .commaInValue := by
  obtain ⟨rest, hkeyword, hbody⟩ := mem_language_iff.1 h
  cases form with
  | select =>
      obtain ⟨statement, hselect⟩ := mem_body_select.1 hbody
      exact .inl ⟨statement,
        parse_of_selection? (Option.bind_eq_some_iff.2 ⟨rest, hkeyword, hselect⟩),
        form_of_selection? hselect⟩
  | insert =>
      obtain ⟨table, text, hinsert⟩ := mem_body_insert.1 hbody
      have hparse := parse_of_insertion? (Option.bind_eq_some_iff.2 ⟨rest, hkeyword, hinsert⟩)
      cases hvalues : values text with
      | ok all => exact .inl ⟨.insert table all, by rw [hparse, hvalues]; rfl, rfl⟩
      | error failure =>
          obtain rfl := of_values_error hvalues
          exact .inr ⟨rfl, by rw [hparse, hvalues]; rfl⟩
  | delete =>
      obtain ⟨statement, hdelete, hform⟩ := mem_body_delete.1 hbody
      exact .inl ⟨statement,
        parse_of_deletion? (Option.bind_eq_some_iff.2 ⟨rest, hkeyword, hdelete⟩),
        hform⟩
  | deleteWhere =>
      obtain ⟨statement, hdelete, hform⟩ := mem_body_deleteWhere.1 hbody
      exact .inl ⟨statement,
        parse_of_deletion? (Option.bind_eq_some_iff.2 ⟨rest, hkeyword, hdelete⟩),
        hform⟩

/-- A line that is no statement is of no form. -/
theorem parse_of_not_mem_language (h : ∀ form : Form, trim line.toList ∉ form.language) :
    parse line = .error .notAStatement := by
  have hnot : ∀ (form : Form) rest, keyword? form.keyword (trim line.toList) = some rest →
      rest ∉ form.body := fun form rest hkeyword hbody =>
    h form (mem_language_iff.2 ⟨rest, hkeyword, hbody⟩)
  rw [parse]
  split
  · rename_i statement hselect
    obtain ⟨rest, hkeyword, hselect⟩ := Option.bind_eq_some_iff.1 hselect
    exact absurd (mem_body_select.2 ⟨statement, hselect⟩) (hnot .select rest hkeyword)
  · split
    · rename_i table text hinsert
      obtain ⟨rest, hkeyword, hinsert⟩ := Option.bind_eq_some_iff.1 hinsert
      exact absurd (mem_body_insert.2 ⟨table, text, hinsert⟩) (hnot .insert rest hkeyword)
    · split
      · rename_i statement hdelete
        obtain ⟨rest, hkeyword, hdelete⟩ := Option.bind_eq_some_iff.1 hdelete
        rcases form_of_deletion? hdelete with hform | hform
        · exact absurd (mem_body_delete.2 ⟨statement, hdelete, hform⟩) (hnot .delete rest hkeyword)
        · exact absurd (mem_body_deleteWhere.2 ⟨statement, hdelete, hform⟩)
            (hnot .deleteWhere rest hkeyword)
      · rfl

/-- No line has two forms.  A line of no form is refused as no statement, and it is the only one.
Every other line is read as a statement of its form, except that an insertion may be refused for a
comma in a value. -/
theorem parse_form (line : String) :
    (∀ form form' : Form, trim line.toList ∈ form.language → trim line.toList ∈ form'.language →
      form = form') ∧
    (parse line = .error .notAStatement ↔ ∀ form : Form, trim line.toList ∉ form.language) ∧
    ∀ form : Form, trim line.toList ∈ form.language →
      (∃ statement, parse line = .ok statement ∧ statement.form = form) ∨
        form = .insert ∧ parse line = .error .commaInValue := by
  refine ⟨fun form form' h h' => ?_, ⟨fun hparse form h => ?_, parse_of_not_mem_language⟩,
    fun form => parse_of_mem_language⟩
  · -- reading the line tells its form
    rcases parse_of_mem_language h with ⟨statement, hparse, rfl⟩ | ⟨rfl, hparse⟩ <;>
      rcases parse_of_mem_language h' with ⟨statement', hparse', rfl⟩ | ⟨rfl, hparse'⟩ <;>
      cases hparse.symm.trans hparse'
    · rfl
    · rfl
  · rcases parse_of_mem_language h with ⟨statement, hok, -⟩ | ⟨-, herror⟩
    · cases hparse.symm.trans hok
    · cases hparse.symm.trans herror

/-- A table may be called `where`. -/
theorem sample_parse_form :
    ∃ statement, parse " Delete from where Where from ;" = .ok statement ∧
      statement.form = .deleteWhere := by
  have hgap : [' '] ∈ gap := by
    show IsGap [' ']
    decide
  have htables : "from".toList ++ [' '] ++ ("where".toList ++ []) ∈ tablesPart := by
    have hfrom : "from".toList ∈ keyword ['f', 'r', 'o', 'm'] := by
      show "from".toList.map foldCase = _
      decide
    have hname : "where".toList ∈ word := by
      show IsWord "where".toList
      decide +kernel
    exact Language.append_mem_mul (Language.append_mem_mul hfrom hgap)
      (Language.append_mem_mul hname (Language.nil_mem_kstar _))
  have hcondition : [' '] ++ "Where".toList ++ [' '] ++ "from".toList ∈ conditionPart := by
    have hwhere : "Where".toList ∈ keyword ['w', 'h', 'e', 'r', 'e'] := by
      show "Where".toList.map foldCase = _
      decide
    have htext : "from".toList ∈ anyText := by
      show '\n' ∉ "from".toList
      decide
    exact Language.append_mem_mul (Language.append_mem_mul (Language.append_mem_mul hgap hwhere)
      hgap) htext
  have hend : [' ', ';'] ∈ ending := mem_ending.2 ⟨[' '], by decide, .inr rfl⟩
  have hdelete : "Delete".toList ∈ keyword Form.deleteWhere.keyword := by
    show "Delete".toList.map foldCase = _
    decide
  have hline : trim " Delete from where Where from ;".toList ∈ Form.deleteWhere.language := by
    have htrim : trim " Delete from where Where from ;".toList = "Delete".toList ++ ([' '] ++
        ("from".toList ++ [' '] ++ ("where".toList ++ [])) ++ ([' '] ++ "Where".toList ++ [' '] ++
          "from".toList) ++ [' ', ';']) := by decide +kernel
    rw [htrim]
    exact Language.append_mem_mul hdelete (Language.append_mem_mul (Language.append_mem_mul
      (Language.append_mem_mul hgap htables) hcondition) hend)
  exact ((parse_form _).2.2 .deleteWhere hline).resolve_right nofun

end SheetStore.Statement
