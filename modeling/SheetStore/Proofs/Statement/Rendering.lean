import SheetStore.Statement
import SheetStore.Proofs.Text.Keyword

/-!
# Printing statements

A statement has many texts.  Its keywords may be written in any case, between two words stands any
gap, around a comma or a parenthesis any run of blanks or none, and a semicolon may end the text.
`Renders` relates a statement to each of its texts, form by form.  Nothing in it looks for a keyword
in a name or in a condition, so a table may be called `from` and a condition may hold `WHERE`.

Not every statement has a text that says what it is.  A name has to be a word, a value has to stand
between quotes, and a condition at the end of a line.  A statement of which all parts can be told is
*plain* (`IsPlain`).
-/

namespace SheetStore

open Text

/-- The value between quotes. -/
def quotedLiteral (value : String) : List Char := '\'' :: (value.toList ++ ['\''])

namespace Statement

/-! ## Words, fields and values -/

/-- One or more word characters. -/
def IsWord (s : List Char) : Prop := s ≠ [] ∧ ∀ c ∈ s, isWordChar c = true

instance (s : List Char) : Decidable (IsWord s) :=
  decidable_of_iff (s ≠ [] ∧ s.all isWordChar = true) (by rw [List.all_eq_true]; rfl)

/-- Two words with a point between them. -/
def IsField (s : List Char) : Prop :=
  ∃ table column, IsWord table ∧ IsWord column ∧ s = table ++ '.' :: column

/-- A value that can stand between quotes in a line. -/
def IsLiteral (s : List Char) : Prop := ',' ∉ s ∧ '\'' ∉ s ∧ '\n' ∉ s

/-- What a condition in a line needs: it begins and ends with something to read, does not end with
a semicolon, and stays on one line. -/
structure Printed (condition : String) : Prop where
  /-- It does not begin with a blank. -/
  first : Begins condition.toList
  /-- It ends neither with a blank nor with a semicolon. -/
  last : ∃ c, condition.toList.getLast? = some c ∧ isBlank c = false ∧ c ≠ ';'
  /-- It has no line feed. -/
  no_lineFeed : '\n' ∉ condition.toList

/-- What a statement needs to be printed: names that are words, fields of two words, values that can
stand between quotes, and a condition that can stand at the end of a line. -/
def IsPlain : Statement → Prop
  | .select fields tables condition => (∀ f ∈ fields, IsField f.toList) ∧
      (∀ t ∈ tables, IsWord t.toList) ∧ ∀ c ∈ condition, Printed c
  | .insert table values => IsWord table.toList ∧ ∀ v ∈ values, IsLiteral v.toList
  | .delete tables => ∀ t ∈ tables, IsWord t.toList
  | .deleteWhere tables condition => (∀ t ∈ tables, IsWord t.toList) ∧ Printed condition

/-! ## The texts of a statement -/

/-- The texts of the items, with a comma between each two of them and blanks around the commas. -/
inductive Joined (text : α → List Char) : List α → List Char → Prop where
  /-- A single item. -/
  | single (a : α) : Joined text [a] (text a)
  /-- An item, a comma and further items. -/
  | cons (a : α) {items : List α} {before after rest : List Char} (hbefore : IsBlanks before)
      (hafter : IsBlanks after) (hrest : Joined text items rest) :
      Joined text (a :: items) (text a ++ (before ++ ',' :: (after ++ rest)))

/-- The end of a statement. -/
inductive IsEnd : List Char → Prop where
  /-- Nothing. -/
  | nothing : IsEnd []
  /-- A semicolon, which blanks may precede. -/
  | semicolon {blanks : List Char} (hblanks : IsBlanks blanks) : IsEnd (blanks ++ [';'])

/-- `FROM` and the tables, and if there is a condition, `WHERE` and the condition. -/
inductive ScopeText : List String → Option String → List Char → Prop where
  /-- Without a condition. -/
  | all {tables : List String} {fromText gap names : List Char}
      (hfrom : fromText.map foldCase = ['f', 'r', 'o', 'm']) (hgap : IsGap gap)
      (hnames : Joined String.toList tables names) :
      ScopeText tables none (fromText ++ (gap ++ names))
  /-- With a condition. -/
  | selected {tables : List String} {condition : String} {scope gap whereText gap' : List Char}
      (hscope : ScopeText tables none scope) (hgap : IsGap gap)
      (hwhere : whereText.map foldCase = ['w', 'h', 'e', 'r', 'e']) (hgap' : IsGap gap') :
      ScopeText tables (some condition)
        (scope ++ (gap ++ (whereText ++ (gap' ++ condition.toList))))

/-- A statement and a text of it, without blanks around the text. -/
inductive Renders : Statement → List Char → Prop where
  /-- `SELECT`, the fields, the tables and the condition. -/
  | select {fields tables : List String} {condition : Option String}
      {selectText gap fieldText gap' scope ending : List Char}
      (hselect : selectText.map foldCase = ['s', 'e', 'l', 'e', 'c', 't']) (hgap : IsGap gap)
      (hfields : Joined String.toList fields fieldText) (hgap' : IsGap gap')
      (hscope : ScopeText tables condition scope) (hend : IsEnd ending) :
      Renders (.select fields tables condition)
        (selectText ++ (gap ++ (fieldText ++ (gap' ++ (scope ++ ending)))))
  /-- `INSERT INTO`, the table, `VALUES` and the values in quotes between parentheses. -/
  | insert {table : String} {values : List String}
      {insertText gap intoText gap' gap'' valuesText before left valueText right ending : List Char}
      (hinsert : insertText.map foldCase = ['i', 'n', 's', 'e', 'r', 't']) (hgap : IsGap gap)
      (hinto : intoText.map foldCase = ['i', 'n', 't', 'o']) (hgap' : IsGap gap')
      (hgap'' : IsGap gap'') (hvalues : valuesText.map foldCase = ['v', 'a', 'l', 'u', 'e', 's'])
      (hbefore : IsBlanks before) (hleft : IsBlanks left)
      (hlist : Joined quotedLiteral values valueText) (hright : IsBlanks right)
      (hline : '\n' ∉ left ++ (valueText ++ right)) (hend : IsEnd ending) :
      Renders (.insert table values)
        (insertText ++ (gap ++ (intoText ++ (gap' ++ (table.toList ++ (gap'' ++ (valuesText ++
          (before ++ '(' :: ((left ++ (valueText ++ right)) ++ ')' :: ending)))))))))
  /-- `DELETE` and the tables. -/
  | delete {tables : List String} {deleteText gap scope ending : List Char}
      (hdelete : deleteText.map foldCase = ['d', 'e', 'l', 'e', 't', 'e']) (hgap : IsGap gap)
      (hscope : ScopeText tables none scope) (hend : IsEnd ending) :
      Renders (.delete tables) (deleteText ++ (gap ++ (scope ++ ending)))
  /-- `DELETE`, the tables and the condition. -/
  | deleteWhere {tables : List String} {condition : String}
      {deleteText gap scope ending : List Char}
      (hdelete : deleteText.map foldCase = ['d', 'e', 'l', 'e', 't', 'e']) (hgap : IsGap gap)
      (hscope : ScopeText tables (some condition) scope) (hend : IsEnd ending) :
      Renders (.deleteWhere tables condition) (deleteText ++ (gap ++ (scope ++ ending)))

/-! ## The ends of the parts -/

theorem IsWord.begins {s : List Char} (h : IsWord s) : Begins s := by
  obtain ⟨c, rest, rfl⟩ := List.exists_cons_of_ne_nil h.1
  exact ⟨c, rfl, isBlank_of_isWordChar (h.2 c List.mem_cons_self)⟩

theorem IsWord.ends {s : List Char} (h : IsWord s) : Ends s :=
  ⟨s.getLast h.1, List.getLast?_eq_some_getLast h.1,
    isBlank_of_isWordChar (h.2 _ (List.getLast_mem h.1))⟩

theorem IsField.begins {s : List Char} (h : IsField s) : Begins s := by
  obtain ⟨table, column, htable, -, rfl⟩ := h
  exact htable.begins.append _

theorem IsField.ends {s : List Char} (h : IsField s) : Ends s := by
  obtain ⟨table, column, -, hcolumn, rfl⟩ := h
  rw [← List.singleton_append, ← List.append_assoc]
  exact hcolumn.ends.append _

theorem begins_quotedLiteral (value : String) : Begins (quotedLiteral value) :=
  ⟨'\'', rfl, by decide⟩

theorem ends_quotedLiteral (value : String) : Ends (quotedLiteral value) := by
  rw [quotedLiteral, ← List.cons_append]
  exact ends_concat (by decide) _

theorem Printed.ends {condition : String} (h : Printed condition) : Ends condition.toList := by
  obtain ⟨c, hc, hblank, -⟩ := h.last
  exact ⟨c, hc, hblank⟩

section Joined

variable {text : α → List Char} {items : List α} {t : List Char}

/-- A joined text begins as its first item does. -/
theorem Joined.begins (h : Joined text items t) (hitems : ∀ a ∈ items, Begins (text a)) :
    Begins t := by
  cases h with
  | single a => exact hitems a List.mem_cons_self
  | cons a => exact (hitems a List.mem_cons_self).append _

/-- A joined text ends as its last item does. -/
theorem Joined.ends (h : Joined text items t) (hitems : ∀ a ∈ items, Ends (text a)) : Ends t := by
  induction h with
  | single a => exact hitems a List.mem_cons_self
  | @cons a items before after rest _ _ _ ih =>
      rw [List.forall_mem_cons] at hitems
      rw [← List.cons_append]
      exact (((ih hitems.2).append _).append _).append _

/-- Cutting undoes joining if the text of an item with blanks around it is one piece, from which the
item can be read. -/
theorem Joined.map_cut (h : Joined text items t) {cut : List Char → List (List Char)}
    {closed : List Char → Prop} (read : List Char → α)
    (hcut : ∀ s rest, closed s → cut (s ++ ',' :: rest) = s :: cut rest)
    (hlast : ∀ s, closed s → cut s = [s])
    (hitems : ∀ a ∈ items, ∀ before after, IsBlanks before → IsBlanks after →
      closed (before ++ (text a ++ after)) ∧ read (before ++ (text a ++ after)) = a)
    {left right : List Char} (hleft : IsBlanks left) (hright : IsBlanks right) :
    (cut (left ++ (t ++ right))).map read = items := by
  induction h generalizing left with
  | single a =>
      obtain ⟨hclosed, hread⟩ := hitems a List.mem_cons_self left right hleft hright
      rw [hlast _ hclosed, List.map_singleton, hread]
  | @cons a items before after rest hbefore hafter _ ih =>
      rw [List.forall_mem_cons] at hitems
      obtain ⟨hclosed, hread⟩ := hitems.1 left before hleft hbefore
      have htext : left ++ ((text a ++ (before ++ ',' :: (after ++ rest))) ++ right)
          = (left ++ (text a ++ before)) ++ ',' :: (after ++ (rest ++ right)) := by
        simp only [List.append_assoc, List.cons_append]
      rw [htext, hcut _ _ hclosed, List.map_cons, hread, ih hitems.2 hafter]

end Joined

variable {tables : List String} {condition : Option String} {scope ending : List Char}

theorem solid_from : Solid ['f', 'r', 'o', 'm'] := solid_of_head (by decide) _

theorem ScopeText.begins (h : ScopeText tables condition scope) : Begins scope := by
  induction h with
  | all hfrom => exact (begins_of_spelled solid_from hfrom).append _
  | selected _ _ _ _ ih => exact ih.append _

theorem ScopeText.ends (h : ScopeText tables condition scope)
    (htables : ∀ name ∈ tables, IsWord name.toList) (hcondition : ∀ c ∈ condition, Printed c) :
    Ends scope := by
  cases h with
  | all _ _ hnames =>
      have hends := hnames.ends fun name hname => (htables name hname).ends
      exact (hends.append _).append _
  | selected => exact ((((hcondition _ rfl).ends.append _).append _).append _).append _

theorem IsEnd.ends_append {s : List Char} (h : IsEnd ending) (hs : Ends s) :
    Ends (s ++ ending) := by
  cases h with
  | nothing => rwa [List.append_nil]
  | semicolon => exact (ends_concat (by decide) _).append _

/-- The text of a statement begins with something to read. -/
theorem Renders.begins {statement : Statement} {text : List Char} (h : statement.Renders text) :
    Begins text := by
  have hspelled : ∀ {k : Char} {word spelled : List Char}, isBlank k = false →
      spelled.map foldCase = k :: word → Begins spelled := fun hk h =>
    begins_of_spelled (solid_of_head hk _) h
  cases h with
  | select hselect => exact (hspelled (by decide) hselect).append _
  | insert hinsert => exact (hspelled (by decide) hinsert).append _
  | delete hdelete => exact (hspelled (by decide) hdelete).append _
  | deleteWhere hdelete => exact (hspelled (by decide) hdelete).append _

/-- The text of a plain statement ends with something to read. -/
theorem Renders.ends {statement : Statement} {text : List Char} (h : statement.Renders text)
    (hplain : statement.IsPlain) : Ends text := by
  cases h with
  | select _ _ _ _ hscope hend =>
      have hends := hend.ends_append (hscope.ends hplain.2.1 hplain.2.2)
      exact (((hends.append _).append _).append _).append _
  | @insert _ _ _ _ _ _ _ _ before left valueText right ending _ _ _ _ _ _ _ _ _ _ _ hend =>
      have hends : Ends ('(' :: ((left ++ (valueText ++ right)) ++ ')' :: ending)) := by
        have hclosed : Ends (('(' :: (left ++ (valueText ++ right))) ++ [')']) :=
          ends_concat (by decide) _
        have hends := hend.ends_append hclosed
        rwa [List.append_assoc, List.cons_append] at hends
      exact (((((((hends.append _).append _).append _).append _).append _).append _).append
        _).append _
  | delete _ _ hscope hend =>
      exact ((hend.ends_append (hscope.ends hplain nofun)).append _).append _
  | deleteWhere _ _ hscope hend =>
      have hends := hscope.ends hplain.1 fun c hc => Option.some.inj hc ▸ hplain.2
      exact ((hend.ends_append hends).append _).append _

end Statement

end SheetStore
