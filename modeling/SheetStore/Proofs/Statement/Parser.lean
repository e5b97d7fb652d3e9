import SheetStore.Statement.Parser
import SheetStore.Proofs.Results
import SheetStore.Proofs.Statement.Rendering
import SheetStore.Proofs.Text.Lines

/-!
# Reading statements

Each reader is shown what a printed statement has at its place, followed by the rest of the line.  It
answers the part that was printed and that rest, and the only question is what the rest may begin
with.  A word ends where no word character follows, a list of names where no comma does
(`StopsNames`), and a condition only with the line.

The fields of a selection end at the first gap from which the rest of the line reads as `FROM`,
tables, and an end or a condition.  A gap before a comma or before a field is no such gap, even if
the table of the field is called `from` (`IsField.from?_eq_none`), so the fields are passed as a
whole (`selectionFrom?_joined`).

The values of an insertion are cut at commas outside of quotes, and lose the blanks and the quotes
around them (`values_of_joined`).
-/

namespace SheetStore

/-- The text of a selection of one field from one table. -/
def selectionText (field table condition : String) : String :=
  "SELECT " ++ field ++ " FROM " ++ table ++ " WHERE " ++ condition

namespace Statement

open Text

variable {s rest : List Char} {line : String}

/-! ## Words and names -/

/-- A word goes on as long as there are word characters. -/
theorem word?_append {word : List Char} (hword : IsWord word)
    (hrest : ∀ c, rest.head? = some c → isWordChar c = false) :
    word? (word ++ rest) = some (word, rest) := by
  have htake : (word ++ rest).takeWhile isWordChar = word := by
    rw [List.takeWhile_append_of_pos hword.2]
    cases rest with
    | nil => simp
    | cons c rest => simp [hrest c rfl]
  have hdrop : (word ++ rest).dropWhile isWordChar = rest := by
    rw [List.dropWhile_append_of_pos hword.2, dropWhile_of_first hrest]
  simp only [word?, htake, hdrop, List.isEmpty_iff, hword.1, if_false]

/-- What follows a list of names. -/
structure StopsNames (rest : List Char) : Prop where
  /-- The last name is complete. -/
  word : ∀ c, rest.head? = some c → isWordChar c = false
  /-- There is no further name. -/
  comma : ∀ more, dropBlanks rest ≠ ',' :: more

theorem isWordChar_of_head_blanks {blanks : List Char} {c d : Char} (hblanks : IsBlanks blanks)
    (hc : isWordChar c = false) (hd : (blanks ++ c :: rest).head? = some d) :
    isWordChar d = false := by
  cases blanks with
  | nil => exact Option.some.inj hd ▸ hc
  | cons b blanks =>
      exact isWordChar_of_isBlank (Option.some.inj hd ▸ hblanks b List.mem_cons_self)

/-- The names of a list are read. -/
theorem names?_append {tables : List String} {t : List Char} (h : Joined String.toList tables t)
    (htables : ∀ name ∈ tables, IsWord name.toList) (hrest : StopsNames rest) :
    names? (t ++ rest) = some (tables, rest) := by
  induction h with
  | single name =>
      have hword := word?_append (htables name List.mem_cons_self) hrest.word
      rw [names?]
      split
      · rename_i hnone
        cases hword.symm.trans hnone
      · rename_i hsome
        cases hword.symm.trans hsome
        split
        · rename_i hcomma
          exact absurd hcomma (hrest.comma _)
        · rw [String.ofList_toList]
  | @cons name names before after t hbefore hafter hjoined ih =>
      rw [List.forall_mem_cons] at htables
      have htext : (name.toList ++ (before ++ ',' :: (after ++ t))) ++ rest
          = name.toList ++ (before ++ ',' :: (after ++ (t ++ rest))) := by simp
      have hstart : ∀ c, (before ++ ',' :: (after ++ (t ++ rest))).head? = some c →
          isWordChar c = false := fun c hc =>
        isWordChar_of_head_blanks hbefore (by decide +kernel) hc
      have hword := word?_append htables.1 hstart
      have hcomma : dropBlanks (before ++ ',' :: (after ++ (t ++ rest)))
          = ',' :: (after ++ (t ++ rest)) := dropBlanks_append hbefore ⟨',', rfl, by decide⟩
      have hbegins := hjoined.begins fun other hother => (htables.2 other hother).begins
      have hmore : dropBlanks (after ++ (t ++ rest)) = t ++ rest :=
        dropBlanks_append hafter (hbegins.append rest)
      rw [htext, names?]
      split
      · rename_i hnone
        cases hword.symm.trans hnone
      · rename_i hsome
        cases hword.symm.trans hsome
        split
        · rename_i hmore'
          cases hcomma.symm.trans hmore'
          rw [hmore, ih htables.2, String.ofList_toList]
        · rename_i hnot
          exact absurd hcomma (hnot _)

/-! ## The end of a line -/

variable {ending : List Char}

/-- The end of a line is dropped and nothing else. -/
theorem withoutEnd_append (h : Ends s) (hlast : s.getLast? ≠ some ';') (hend : IsEnd ending) :
    withoutEnd (s ++ ending) = s := by
  cases hend with
  | nothing => rw [List.append_nil, withoutEnd, if_neg hlast, trimEnd_of_ends h]
  | @semicolon blanks hblanks =>
      rw [← List.append_assoc, withoutEnd, if_pos List.getLast?_concat, List.dropLast_concat,
        trimEnd_append h hblanks]

theorem withoutEnd_of_isEnd (h : IsEnd ending) : withoutEnd ending = [] := by
  cases h with
  | nothing => rfl
  | @semicolon blanks hblanks =>
      rw [withoutEnd, if_pos List.getLast?_concat, List.dropLast_concat, trimEnd, dropWhileEnd,
        List.reverse_eq_nil_iff, List.dropWhile_eq_nil_iff]
      exact fun c hc => hblanks c (List.mem_reverse.1 hc)

theorem IsEnd.stopsNames (h : IsEnd ending) : StopsNames ending := by
  cases h with
  | nothing => exact ⟨nofun, nofun⟩
  | semicolon hblanks =>
      refine ⟨fun c hc => isWordChar_of_head_blanks hblanks (by decide +kernel) hc, fun more => ?_⟩
      rw [dropBlanks_append hblanks ⟨';', rfl, by decide⟩]
      simp

/-! ## Tables and conditions -/

variable {condition : String} {tables : List String} {scope : List Char}

theorem where?_of_isEnd (h : IsEnd ending) : where? ending = some none := by
  rw [where?, withoutEnd_of_isEnd h]
  rfl

/-- A line that ends with a condition has no other end. -/
theorem Printed.withoutEnd_append (h : Printed condition) (hend : IsEnd ending)
    (front : List Char) :
    withoutEnd (front ++ (condition.toList ++ ending)) = front ++ condition.toList := by
  obtain ⟨c, hc, -, hne⟩ := h.last
  have hlast : (front ++ condition.toList).getLast? ≠ some ';' := by
    rw [List.getLast?_append, hc, Option.some_or]
    exact fun heq => hne (Option.some.inj heq)
  rw [← List.append_assoc, Statement.withoutEnd_append (h.ends.append front) hlast hend]

section Where

variable {gap gap' whereText : List Char}

theorem solid_where : Solid ['w', 'h', 'e', 'r', 'e'] := solid_of_head (by decide) _

/-- A condition is read to the end of the line. -/
theorem where?_append (h : Printed condition) (hgap : IsGap gap)
    (hwhere : whereText.map foldCase = ['w', 'h', 'e', 'r', 'e']) (hgap' : IsGap gap')
    (hend : IsEnd ending) :
    where? (gap ++ (whereText ++ (gap' ++ (condition.toList ++ ending))))
      = some (some condition) := by
  have hbody : withoutEnd (gap ++ (whereText ++ (gap' ++ (condition.toList ++ ending))))
      = gap ++ (whereText ++ (gap' ++ condition.toList)) := by
    have hbody := h.withoutEnd_append hend (gap ++ (whereText ++ gap'))
    simpa only [List.append_assoc] using hbody
  have hnonempty : (gap ++ (whereText ++ (gap' ++ condition.toList))).isEmpty = false := by
    simp [hgap.1]
  have hcondition : condition? (condition.toList ++ ending) = some condition := by
    have hself := h.withoutEnd_append hend []
    rw [List.nil_append, List.nil_append] at hself
    simp [condition?, hself, h.no_lineFeed]
  rw [where?, hbody, hnonempty, between?_append solid_where hgap hwhere hgap'
    (h.first.append ending), Option.bind_some, hcondition]
  rfl

/-- The gap before `WHERE` ends the names. -/
theorem stopsNames_where (hgap : IsGap gap)
    (hwhere : whereText.map foldCase = ['w', 'h', 'e', 'r', 'e']) (rest : List Char) :
    StopsNames (gap ++ (whereText ++ rest)) := by
  constructor
  · obtain ⟨b, blanks, rfl, hb, -⟩ := hgap.exists_cons
    exact fun c hc => isWordChar_of_isBlank (Option.some.inj hc ▸ hb)
  · intro more
    rw [dropBlanks_append hgap.2 ((begins_of_spelled solid_where hwhere).append rest)]
    obtain ⟨c, letters, rfl, hfold, -⟩ := List.map_eq_cons_iff.1 hwhere
    rintro heq
    cases heq
    revert hfold
    decide

end Where

/-- The tables after `FROM` are read, and then what follows them. -/
theorem from?_names {fromText gap names : List Char} {condition : Option String}
    (hfrom : fromText.map foldCase = ['f', 'r', 'o', 'm']) (hgap : IsGap gap)
    (hnames : Joined String.toList tables names)
    (htables : ∀ name ∈ tables, IsWord name.toList) (hrest : StopsNames rest)
    (hwhere : where? rest = some condition) :
    from? (fromText ++ (gap ++ (names ++ rest))) = some (tables, condition) := by
  have hbegins := hnames.begins fun name hname => (htables name hname).begins
  rw [from?, keywordThen?, keyword?_append hfrom, Option.bind_some,
    blankRun?_append hgap (hbegins.append rest), Option.bind_some, scope?,
    names?_append hnames htables hrest]
  simp only [hwhere, Option.map_some]

/-- The tables and the condition are read. -/
theorem from?_append {condition : Option String} (h : ScopeText tables condition scope)
    (htables : ∀ name ∈ tables, IsWord name.toList) (hcondition : ∀ c ∈ condition, Printed c)
    (hend : IsEnd ending) : from? (scope ++ ending) = some (tables, condition) := by
  cases h with
  | all hfrom hgap hnames =>
      have hfrom := from?_names hfrom hgap hnames htables hend.stopsNames (where?_of_isEnd hend)
      simpa only [List.append_assoc] using hfrom
  | selected hscope hgap' hwhere hgap'' =>
      cases hscope with
      | all hfrom hgap hnames =>
          have hfrom := from?_names hfrom hgap hnames htables (stopsNames_where hgap' hwhere _)
            (where?_append (hcondition _ rfl) hgap' hwhere hgap'' hend)
          simpa only [List.append_assoc] using hfrom

/-! ## Selections -/

/-- A keyword is not found where a character that stands in none comes before every blank. -/
theorem keywordThen?_eq_none {word front : List Char} {c : Char}
    (hfront : ∀ d ∈ front, isBlank d = false) (hc : isBlank c = false) (hfold : foldCase c ∉ word)
    (rest : List Char) : keywordThen? word (front ++ c :: rest) = none := by
  rw [keywordThen?, Option.bind_eq_none_iff]
  intro after hafter
  obtain ⟨spelled, hspelled, heq⟩ := keyword?_eq_some.1 hafter
  have hstops : ∀ d more, after = d :: more → isBlank d = false → blankRun? after = none := by
    rintro d more rfl hd
    simp [blankRun?, hd]
  -- the spelling ends before the character, or the character is in it
  rcases List.append_eq_append_iff.1 heq with ⟨gap, hgap, hrest⟩ | ⟨gap, hgap, hrest⟩
  · cases gap with
    | nil => exact hstops c rest hrest.symm hc
    | cons d gap =>
        cases hrest
        rw [hgap] at hspelled
        exact absurd (hspelled ▸ List.mem_map_of_mem (by simp)) hfold
  · cases gap with
    | nil => exact hstops c rest hrest hc
    | cons d gap => exact hstops d _ hrest (hfront d (hgap ▸ by simp))

theorem from?_eq_none {front : List Char} {c : Char} (hfront : ∀ d ∈ front, isBlank d = false)
    (hc : isBlank c = false) (hfold : foldCase c ∉ ['f', 'r', 'o', 'm']) (rest : List Char) :
    from? (front ++ c :: rest) = none := by
  rw [from?, keywordThen?_eq_none hfront hc hfold, Option.bind_none]

/-- No tables can be read where a field stands, even if its table is called `from`. -/
theorem IsField.from?_eq_none (h : IsField s) (rest : List Char) : from? (s ++ rest) = none := by
  obtain ⟨table, column, htable, -, rfl⟩ := h
  rw [List.append_assoc, List.cons_append]
  exact Statement.from?_eq_none (fun d hd => isBlank_of_isWordChar (htable.2 d hd)) (by decide)
    (by decide) _

/-- What stands before the end of the fields is passed. -/
theorem selectionFrom?_append {field : List Char} (hfield : ∀ c ∈ field, isFieldChar c = true ∧
    isBlank c = false) (passed rest : List Char) :
    selectionFrom? passed (field ++ rest) = selectionFrom? (field.reverse ++ passed) rest := by
  induction field generalizing passed with
  | nil => rfl
  | cons c field ih =>
      rw [List.forall_mem_cons] at hfield
      rw [List.cons_append, selectionFrom?, ih hfield.2, List.reverse_cons, List.append_assoc]
      simp [hfield.1]

/-- Blanks are passed if the fields do not end there. -/
theorem selectionFrom?_blanks {blanks : List Char} (hblanks : IsBlanks blanks)
    (hbegins : Begins rest) (hfrom : from? rest = none) (passed : List Char) :
    selectionFrom? passed (blanks ++ rest) = selectionFrom? (blanks.reverse ++ passed) rest := by
  induction blanks generalizing passed with
  | nil => rfl
  | cons c blanks ih =>
      rw [IsBlanks, List.forall_mem_cons] at hblanks
      have hpass : selectionFrom? passed (c :: (blanks ++ rest))
          = selectionFrom? (c :: passed) (blanks ++ rest) := by
        rw [selectionFrom?, dropBlanks_append hblanks.2 hbegins, hfrom]
        simp [isFieldChar, hblanks.1]
      rw [List.cons_append, hpass, ih hblanks.2, List.reverse_cons, List.append_assoc]
      rfl

/-- The fields end at a gap after which the rest of the line is right. -/
theorem selectionFrom?_end {gap : List Char} {c : Char} {text : Option String}
    (hgap : IsGap gap) (hc : isBlank c = false) (hbegins : Begins rest)
    (hfrom : from? rest = some (tables, text)) (passed : List Char) :
    selectionFrom? (c :: passed) (gap ++ rest)
      = some (.select (fieldList (c :: passed).reverse) tables text) := by
  obtain ⟨b, blanks, rfl, hb, hblanks⟩ := hgap.exists_cons
  rw [List.cons_append, selectionFrom?, dropBlanks_append hblanks hbegins, hfrom]
  simp [isFieldChar, hb, hc]

theorem IsField.isFieldChar_of_mem (h : IsField s) :
    ∀ c ∈ s, isFieldChar c = true ∧ isBlank c = false := by
  obtain ⟨table, column, htable, hcolumn, rfl⟩ := h
  have hword : ∀ {word : List Char}, IsWord word → ∀ c ∈ word,
      isFieldChar c = true ∧ isBlank c = false := fun h c hc =>
    ⟨by simp [isFieldChar, h.2 c hc], isBlank_of_isWordChar (h.2 c hc)⟩
  intro c hc
  rcases List.mem_append.1 hc with hc | hc
  · exact hword htable c hc
  · rcases List.mem_cons.1 hc with rfl | hc
    · exact ⟨by simp [isFieldChar], by decide⟩
    · exact hword hcolumn c hc

section Fields

variable {fields : List String} {fieldText : List Char}

/-- The fields are passed as a whole. -/
theorem selectionFrom?_joined (h : Joined String.toList fields fieldText)
    (hfields : ∀ f ∈ fields, IsField f.toList) (passed rest : List Char) :
    selectionFrom? passed (fieldText ++ rest)
      = selectionFrom? (fieldText.reverse ++ passed) rest := by
  induction h generalizing passed with
  | single f =>
      exact selectionFrom?_append (hfields f List.mem_cons_self).isFieldChar_of_mem passed rest
  | @cons f fields before after t hbefore hafter hjoined ih =>
      rw [List.forall_mem_cons] at hfields
      have hcomma : ∀ c ∈ [','], isFieldChar c = true ∧ isBlank c = false :=
        List.forall_mem_singleton.2 (by decide +kernel)
      have hstops : from? ([','] ++ (after ++ (t ++ rest))) = none :=
        from?_eq_none (List.forall_mem_nil _) (by decide) (by decide) _
      have hbegins := (hjoined.begins fun g hg => (hfields.2 g hg).begins).append rest
      have hfrom : from? (t ++ rest) = none := by
        cases hjoined with
        | single g => exact (hfields.2 g List.mem_cons_self).from?_eq_none rest
        | cons g =>
            rw [List.append_assoc]
            exact (hfields.2 g List.mem_cons_self).from?_eq_none _
      have htext : (f.toList ++ (before ++ ',' :: (after ++ t))) ++ rest
          = f.toList ++ (before ++ ([','] ++ (after ++ (t ++ rest)))) := by simp
      rw [htext, selectionFrom?_append hfields.1.isFieldChar_of_mem,
        selectionFrom?_blanks hbefore ⟨',', rfl, by decide⟩ hstops, selectionFrom?_append hcomma,
        selectionFrom?_blanks hafter hbegins hfrom, ih hfields.2]
      simp

theorem IsField.comma_not_mem (h : IsField s) : ',' ∉ s := by
  obtain ⟨table, column, htable, hcolumn, rfl⟩ := h
  have hcomma : isWordChar ',' = false := by decide +kernel
  have hword : ∀ {word : List Char}, IsWord word → ',' ∉ word := fun h hmem => by
    rw [h.2 _ hmem] at hcomma
    cases hcomma
  rw [List.mem_append, List.mem_cons, not_or, not_or]
  exact ⟨hword htable, by decide, hword hcolumn⟩

/-- The fields are cut at the commas between them. -/
theorem fieldList_of_joined (h : Joined String.toList fields fieldText)
    (hfields : ∀ f ∈ fields, IsField f.toList) : fieldList fieldText = fields := by
  have hitems : ∀ f ∈ fields, ∀ before after, IsBlanks before → IsBlanks after →
      ',' ∉ before ++ (f.toList ++ after) ∧
        String.ofList (trim (before ++ (f.toList ++ after))) = f := by
    intro f hf before after hbefore hafter
    have hfield := hfields f hf
    constructor
    · rw [List.mem_append, List.mem_append, not_or, not_or]
      exact ⟨hbefore.not_mem (by decide), hfield.comma_not_mem, hafter.not_mem (by decide)⟩
    · rw [trim_append hbefore hafter hfield.begins hfield.ends, String.ofList_toList]
  have hnil : IsBlanks [] := List.forall_mem_nil _
  have hcut := h.map_cut (fun s => String.ofList (trim s))
    (fun _ rest hs => List.splitOn_append_cons_self_of_not_mem hs rest)
    (fun _ => List.splitOn_eq_singleton) hitems hnil hnil
  rwa [List.nil_append, List.append_nil] at hcut

/-- The fields, the tables and the condition of a selection are read. -/
theorem selection?_append {condition : Option String} {gap gap' : List Char} (hgap : IsGap gap)
    (hjoined : Joined String.toList fields fieldText) (hgap' : IsGap gap')
    (hscope : ScopeText tables condition scope) (hend : IsEnd ending)
    (hplain : (Statement.select fields tables condition).IsPlain) :
    selection? (gap ++ (fieldText ++ (gap' ++ (scope ++ ending))))
      = some (.select fields tables condition) := by
  obtain ⟨hfields, htables, hcondition⟩ := hplain
  have hbegins := hjoined.begins fun f hf => (hfields f hf).begins
  obtain ⟨c, hlast, hc⟩ := hjoined.ends fun f hf => (hfields f hf).ends
  obtain ⟨passed, hpassed⟩ : ∃ passed, fieldText.reverse = c :: passed :=
    List.head?_eq_some_iff.1 (by rw [List.head?_reverse, hlast])
  have hfrom := selectionFrom?_end hgap' hc (hscope.begins.append ending)
    (from?_append hscope htables hcondition hend) passed
  rw [← hpassed, List.reverse_reverse, fieldList_of_joined hjoined hfields] at hfrom
  have hall : selectionFrom? [] (fieldText ++ (gap' ++ (scope ++ ending)))
      = some (.select fields tables condition) := by
    rw [selectionFrom?_joined hjoined hfields, List.append_nil, hfrom]
  simp only [selection?, blankRun?_append hgap (hbegins.append _), hall]

end Fields

/-- A line that reads as a selection is one. -/
theorem parse_of_selection? {statement : Statement}
    (h : (keyword? ['s', 'e', 'l', 'e', 'c', 't'] (trim line.toList)).bind selection?
      = some statement) : parse line = .ok statement := by
  simp only [parse, h]

/-- A selection of one field from one table is read as it is printed. -/
theorem parse_selectionText {field table : String} (hfield : IsField field.toList)
    (htable : IsWord table.toList) (hcondition : Printed condition) :
    parse (selectionText field table condition)
      = .ok (.select [field] [table] (some condition)) := by
  have hgap : IsGap [' '] := by decide
  have hscope : ScopeText [table] (some condition) ("FROM".toList ++ ([' '] ++ table.toList) ++
      ([' '] ++ ("WHERE".toList ++ ([' '] ++ condition.toList)))) :=
    .selected (.all (by decide) hgap (.single table)) hgap (by decide) hgap
  have hselection := selection?_append hgap (.single field) hgap hscope .nothing
    ⟨List.forall_mem_singleton.2 hfield, List.forall_mem_singleton.2 htable,
      fun c hc => Option.some.inj hc ▸ hcondition⟩
  have htext : (selectionText field table condition).toList = "SELECT".toList ++ ([' '] ++
      (field.toList ++ ([' '] ++ (("FROM".toList ++ ([' '] ++ table.toList) ++
        ([' '] ++ ("WHERE".toList ++ ([' '] ++ condition.toList)))) ++ [])))) := by
    simp [selectionText]
  have htrim : trim (selectionText field table condition).toList
      = (selectionText field table condition).toList := by
    obtain ⟨c, hlast, hblank⟩ := hcondition.ends
    refine strip_of_ends (fun d hd => ?_) fun d hd => ?_
    · rw [htext] at hd
      cases hd
      decide
    · rw [selectionText, String.toList_append, List.getLast?_append, hlast, Option.some_or] at hd
      exact Option.some.inj hd ▸ hblank
  refine parse_of_selection? ?_
  rw [htrim, htext, keyword?_append (by decide), Option.bind_some, hselection]

/-! ## Insertions -/

/-- A text without a comma and with an even number of quotes. -/
def IsToken (s : List Char) : Prop := ',' ∉ s ∧ s.count '\'' % 2 = 0

/-- A quote leads into quotes or out of them, and no other character does. -/
theorem quoted_count_cons (quoted : Bool) (c : Char) (s : List Char) :
    (quoted ^^ c == '\'' ^^ (s.count '\'' % 2 == 1))
      = (quoted ^^ ((c :: s).count '\'' % 2 == 1)) := by
  rw [List.count_cons]
  rcases Nat.mod_two_eq_zero_or_one (s.count '\'') with hs | hs <;>
    cases hq : c == '\'' <;> cases quoted <;> simp [Nat.add_mod, hs]

/-- A text without a comma is passed.  It ends inside of quotes if it begins there and the number of
its quotes is even, or begins outside and the number is odd. -/
theorem valuesFrom_append (h : ',' ∉ s) (quoted : Bool) (value rest : List Char) :
    valuesFrom quoted value (s ++ rest)
      = valuesFrom (quoted ^^ (s.count '\'' % 2 == 1)) (s.reverse ++ value) rest := by
  induction s generalizing quoted value with
  | nil => simp
  | cons c s ih =>
      rw [List.mem_cons, not_or] at h
      have hc : ¬ (c = ',' && !quoted) = true := by simp [Ne.symm h.1]
      rw [List.cons_append, valuesFrom, if_neg hc, ih h.2, quoted_count_cons, List.reverse_cons,
        List.append_assoc, List.singleton_append]

theorem valuesFrom_token (h : IsToken s) (rest : List Char) :
    valuesFrom false [] (s ++ ',' :: rest) = s :: valuesFrom false [] rest := by
  rw [valuesFrom_append h.1, h.2, valuesFrom, if_pos (by simp)]
  simp

theorem valuesFrom_lastToken (h : IsToken s) : valuesFrom false [] s = [s] := by
  have hall := valuesFrom_append h.1 false [] []
  rw [List.append_nil] at hall
  rw [hall, valuesFrom]
  simp

section Values

variable {value : String} {left right : List Char}

/-- A value in quotes, with blanks around it, is one token. -/
theorem isToken_quotedLiteral (h : IsLiteral value.toList) (hleft : IsBlanks left)
    (hright : IsBlanks right) : IsToken (left ++ (quotedLiteral value ++ right)) := by
  obtain ⟨hcomma, hquote, -⟩ := h
  constructor
  · simp [quotedLiteral, hcomma, hleft.not_mem (c := ',') (by decide),
      hright.not_mem (c := ',') (by decide)]
  · have hcount : (left ++ (quotedLiteral value ++ right)).count '\'' = 2 := by
      simp [quotedLiteral, List.count_eq_zero.2 hquote,
        List.count_eq_zero.2 (hleft.not_mem (c := '\'') (by decide)),
        List.count_eq_zero.2 (hright.not_mem (c := '\'') (by decide))]
    rw [hcount]

/-- A token in quotes is the value between them. -/
theorem bareValue_of_quoted {token : List Char} (hquote : '\'' ∉ value.toList)
    (htoken : trim token = quotedLiteral value) : bareValue token = value.toList := by
  rw [bareValue, htoken]
  exact strip_enclosed (by decide) fun c hc => beq_eq_false_iff_ne.2 fun heq => hquote (heq ▸ hc)

/-- The values of an insertion are those between the quotes. -/
theorem values_of_joined {all : List String} {t : List Char} (h : Joined quotedLiteral all t)
    (hall : ∀ v ∈ all, IsLiteral v.toList) (hleft : IsBlanks left) (hright : IsBlanks right) :
    values (left ++ (t ++ right)) = .ok all := by
  have hitems : ∀ v ∈ all, ∀ before after, IsBlanks before → IsBlanks after →
      IsToken (before ++ (quotedLiteral v ++ after)) ∧
        String.ofList (bareValue (before ++ (quotedLiteral v ++ after))) = v := by
    intro v hv before after hbefore hafter
    have hliteral := hall v hv
    refine ⟨isToken_quotedLiteral hliteral hbefore hafter, ?_⟩
    rw [bareValue_of_quoted hliteral.2.1 (trim_append hbefore hafter (begins_quotedLiteral v)
      (ends_quotedLiteral v)), String.ofList_toList]
  have hcut := h.map_cut (fun s => String.ofList (bareValue s))
    (fun _ rest h => valuesFrom_token h rest) (fun _ => valuesFrom_lastToken) hitems hleft hright
  have htexts : (valuesFrom false [] (left ++ (t ++ right))).map bareValue
      = all.map String.toList := by
    rw [← hcut, List.map_map]
    exact List.map_congr_left fun s _ => String.toList_ofList.symm
  have hcomma : (all.map String.toList).any (·.contains ',') = false := by
    rw [List.any_eq_false]
    intro s hs
    obtain ⟨v, hv, rfl⟩ := List.mem_map.1 hs
    simpa using (hall v hv).1
  simp only [values, htexts, hcomma, Bool.false_eq_true, if_false, List.map_map]
  simp [Function.comp_def]

end Values

/-- The values of an insertion are its tokens without blanks and quotes around them. -/
theorem getElem?_of_values {text : List Char} {all : List String} (h : values text = .ok all)
    (i : Nat) : all[i]? = (valuesFrom false [] text)[i]?.map fun token =>
      String.ofList (bareValue token) := by
  rw [values] at h
  split at h
  · cases h
  · cases h
    rw [List.getElem?_map, List.getElem?_map, Option.map_map]
    rfl

theorem parenthesized?_append {text : List Char} (hline : '\n' ∉ text) (hend : IsEnd ending) :
    parenthesized? ('(' :: (text ++ ')' :: ending)) = some text := by
  have hbody := withoutEnd_append (ends_concat (c := ')') (by decide) text)
    (by rw [List.getLast?_concat]; decide) hend
  rw [List.append_assoc, List.singleton_append] at hbody
  simp [parenthesized?, hbody, hline]

/-- The table and the text between the parentheses are read. -/
theorem insertion?_append {table : String} {gap intoText gap' gap'' valuesText before text :
      List Char} (hgap : IsGap gap) (hinto : intoText.map foldCase = ['i', 'n', 't', 'o'])
    (hgap' : IsGap gap') (htable : IsWord table.toList) (hgap'' : IsGap gap'')
    (hvalues : valuesText.map foldCase = ['v', 'a', 'l', 'u', 'e', 's'])
    (hbefore : IsBlanks before) (hline : '\n' ∉ text) (hend : IsEnd ending) :
    insertion? (gap ++ (intoText ++ (gap' ++ (table.toList ++ (gap'' ++ (valuesText ++
      (before ++ '(' :: (text ++ ')' :: ending)))))))) = some (table, text) := by
  have hsolid : Solid ['v', 'a', 'l', 'u', 'e', 's'] := solid_of_head (by decide) _
  have hword : ∀ c, (gap'' ++ (valuesText ++ (before ++ '(' :: (text ++ ')' :: ending)))).head?
      = some c → isWordChar c = false := by
    obtain ⟨b, blanks, rfl, hb, -⟩ := hgap''.exists_cons
    exact fun c hc => isWordChar_of_isBlank (Option.some.inj hc ▸ hb)
  rw [insertion?, between?_append (solid_of_head (by decide) _) hgap hinto hgap'
    (htable.begins.append _), Option.bind_some, word?_append htable hword]
  simp only [Option.bind_some]
  rw [blankRun?_append hgap'' ((begins_of_spelled hsolid hvalues).append _), Option.bind_some,
    keyword?_append hvalues, Option.bind_some, dropBlanks_append hbefore ⟨'(', rfl, by decide⟩,
    parenthesized?_append hline hend, Option.map_some, String.ofList_toList]

/-- A line that begins with one keyword begins with no other. -/
theorem keyword?_eq_none_of_head {k j : Char} {word other s : List Char}
    (h : (keyword? (k :: word) s).isSome = true) (hne : k ≠ j) :
    keyword? (j :: other) s = none := by
  obtain ⟨rest, hrest⟩ := Option.isSome_iff_exists.1 h
  obtain ⟨spelled, hspelled, rfl⟩ := keyword?_eq_some.1 hrest
  obtain ⟨c, spelled, rfl, hfold, -⟩ := List.map_eq_cons_iff.1 hspelled
  refine keyword?_of_head fun d hd => ?_
  obtain rfl := Option.some.inj hd
  rwa [hfold]

/-- A line that reads as an insertion reads as nothing else. -/
theorem parse_of_insertion? {table : String} {text : List Char}
    (h : (keyword? ['i', 'n', 's', 'e', 'r', 't'] (trim line.toList)).bind insertion?
      = some (table, text)) : parse line = (values text).map (.insert table) := by
  obtain ⟨rest, hinsert, -⟩ := Option.bind_eq_some_iff.1 h
  have hselect : keyword? ['s', 'e', 'l', 'e', 'c', 't'] (trim line.toList) = none :=
    keyword?_eq_none_of_head (Option.isSome_of_eq_some hinsert) (by decide)
  simp only [parse, hselect, Option.bind_none, h]

/-! ## Deletions -/

/-- The tables and the condition of a deletion are read. -/
theorem deletion?_append {condition : Option String} {gap : List Char} (hgap : IsGap gap)
    (hscope : ScopeText tables condition scope) (hend : IsEnd ending)
    (htables : ∀ name ∈ tables, IsWord name.toList) (hcondition : ∀ c ∈ condition, Printed c) :
    deletion? (gap ++ (scope ++ ending)) = some (match condition with
      | none => .delete tables
      | some condition => .deleteWhere tables condition) := by
  rw [deletion?, blankRun?_append hgap (hscope.begins.append ending), Option.bind_some,
    from?_append hscope htables hcondition hend]
  cases condition <;> rfl

/-- A line that reads as a deletion reads as nothing else. -/
theorem parse_of_deletion? {statement : Statement}
    (h : (keyword? ['d', 'e', 'l', 'e', 't', 'e'] (trim line.toList)).bind deletion?
      = some statement) : parse line = .ok statement := by
  obtain ⟨rest, hdelete, -⟩ := Option.bind_eq_some_iff.1 h
  have hselect : keyword? ['s', 'e', 'l', 'e', 'c', 't'] (trim line.toList) = none :=
    keyword?_eq_none_of_head (Option.isSome_of_eq_some hdelete) (by decide)
  have hinsert : keyword? ['i', 'n', 's', 'e', 'r', 't'] (trim line.toList) = none :=
    keyword?_eq_none_of_head (Option.isSome_of_eq_some hdelete) (by decide)
  simp only [parse, hselect, hinsert, Option.bind_none, h]

end Statement

end SheetStore
