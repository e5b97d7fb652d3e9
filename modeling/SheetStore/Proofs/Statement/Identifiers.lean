import SheetStore.Proofs.Row
import SheetStore.Proofs.Statement.Acceptance
import SheetStore.Proofs.Statement.RoundTrip
import SheetStore.Proofs.Steps

/-!
# Identifiers in a line

The names of a schema are identifiers and the names in a line are words.  Letters, digits and the
low line are both, but a number that is neither a digit nor a letter, such as a superscript two, may
stand in an identifier and not in a word (`isWord_of_isIdentifier`).  So a schema can declare a
table that no line can name.

Such a number is *stray* in a line: it ends the word before it, and as it is no blank, no comma and
no semicolon, nothing that may follow a name can begin with it (`where?_stray`).  A line with a
declared name at the place of a table or of a field is read as it is meant if the name is a word,
and is refused if it is not (`parse_declared`).
-/

namespace SheetStore

open Text

namespace Statement

variable {s front rest after : List Char} {c : Char} {name column : String}

/-! ## Identifiers and words -/

theorem isWordChar_of_isIdentifierChar (hc : isIdentifierChar c = true)
    (hnumber : Property.otherNumber.holds c.toNat = false) : isWordChar c = true := by
  rw [isIdentifierChar, Bool.or_eq_true, beq_iff_eq] at hc
  rcases hc with hc | rfl
  · simp only [isAlphanumeric, hnumber, Bool.or_false, Bool.or_eq_true] at hc
    rcases hc with hc | hc <;> simp [isWordChar, hc]
  · decide +kernel

/-- An identifier is a word if all its numbers are digits or letters. -/
theorem isWord_of_isIdentifier (h : isIdentifier name = true)
    (hnumber : ∀ c ∈ name.toList, Property.otherNumber.holds c.toNat = false) :
    IsWord name.toList := by
  refine ⟨toList_ne_nil_of_isIdentifier h, fun c hc => ?_⟩
  rw [isIdentifier, Bool.and_eq_true, List.all_eq_true] at h
  exact isWordChar_of_isIdentifierChar (h.2 c hc) (hnumber c hc)

theorem ne_of_isIdentifierChar {d : Char} (hc : isIdentifierChar c = true)
    (hd : isIdentifierChar d = false) : c ≠ d := by
  rintro rfl
  rw [hc] at hd
  cases hd

/-- In the fields of a selection stand those characters of an identifier that may stand in a word.
-/
theorem isFieldChar_of_isIdentifierChar (hc : isIdentifierChar c = true) :
    isFieldChar c = isWordChar c := by
  have hpoint : (c == '.') = false :=
    beq_eq_false_iff_ne.2 (ne_of_isIdentifierChar hc (by decide +kernel))
  have hcomma : (c == ',') = false :=
    beq_eq_false_iff_ne.2 (ne_of_isIdentifierChar hc (by decide +kernel))
  rw [isFieldChar, hpoint, hcomma, isBlank_of_isIdentifierChar hc, Bool.or_false, Bool.or_false,
    Bool.or_false]

/-- An identifier that is no word has a first character that stands in no word. -/
theorem exists_stray (h : isIdentifier name = true) (hword : ¬ IsWord name.toList) :
    ∃ front c rest, name.toList = front ++ c :: rest ∧ (∀ d ∈ front, isWordChar d = true) ∧
      isIdentifierChar c = true ∧ isWordChar c = false := by
  have hne : name.toList.dropWhile isWordChar ≠ [] := by
    rw [Ne, List.dropWhile_eq_nil_iff]
    exact fun hall => hword ⟨toList_ne_nil_of_isIdentifier h, hall⟩
  obtain ⟨c, rest, hrest⟩ := List.exists_cons_of_ne_nil hne
  have hname : name.toList = name.toList.takeWhile isWordChar ++ c :: rest := by
    rw [← hrest, List.takeWhile_append_dropWhile]
  have hc : isWordChar c = false := by
    have hhead := List.head?_dropWhile_not isWordChar name.toList
    simpa [hrest] using hhead
  rw [isIdentifier, Bool.and_eq_true, List.all_eq_true] at h
  exact ⟨_, c, rest, hname, fun d hd => List.mem_takeWhile_imp hd,
    h.2 c (by rw [hname]; simp), hc⟩

/-! ## Stray characters -/

/-- A word ends where a stray character stands. -/
theorem rest_of_word?_stray {word : List Char} (hfront : ∀ d ∈ front, isWordChar d = true)
    (hc : isWordChar c = false) (h : word? (front ++ c :: rest) = some (word, after)) :
    after = c :: rest := by
  have hdrop : (front ++ c :: rest).dropWhile isWordChar = c :: rest := by
    rw [List.dropWhile_append_of_pos hfront, List.dropWhile_cons, hc]
    rfl
  simp only [word?, hdrop] at h
  split at h
  · cases h
  · cases h
    rfl

theorem dropBlanks_stray (hc : isIdentifierChar c = true) : dropBlanks (c :: rest) = c :: rest :=
  dropBlanks_of_begins ⟨c, rfl, isBlank_of_isIdentifierChar hc⟩

/-- Names end where a stray character stands. -/
theorem rest_of_names?_stray {tables : List String} (hfront : ∀ d ∈ front, isWordChar d = true)
    (hc : isIdentifierChar c = true) (hword : isWordChar c = false)
    (h : names? (front ++ c :: rest) = some (tables, after)) : after = c :: rest := by
  rw [names?] at h
  split at h
  · cases h
  · rename_i word next hnext
    obtain rfl := rest_of_word?_stray hfront hword hnext
    split at h
    · rename_i more hmore
      rw [dropBlanks_stray hc, List.cons.injEq] at hmore
      exact absurd hmore.1 (ne_of_isIdentifierChar hc (by decide +kernel))
    · cases h
      rfl

theorem blankRun?_stray (hc : isIdentifierChar c = true) : blankRun? (c :: rest) = none := by
  rw [blankRun?, isBlank_of_isIdentifierChar hc]
  rfl

/-- Nothing that may follow the tables begins with a stray character. -/
theorem where?_stray (hc : isIdentifierChar c = true) : where? (c :: rest) = none := by
  have hend : ¬ (withoutEnd (c :: rest)).isEmpty := by
    rw [List.isEmpty_iff, withoutEnd_eq_nil_iff]
    intro hend
    rcases isBlank_of_mem_ending hend List.mem_cons_self with hblank | hsemicolon
    · rw [isBlank_of_isIdentifierChar hc] at hblank
      cases hblank
    · exact ne_of_isIdentifierChar hc (by decide +kernel) hsemicolon
  rw [where?, if_neg hend, between?, blankRun?_stray hc]
  rfl

theorem scope?_stray (hfront : ∀ d ∈ front, isWordChar d = true) (hc : isIdentifierChar c = true)
    (hword : isWordChar c = false) : scope? (front ++ c :: rest) = none := by
  rw [scope?]
  split
  · rfl
  · rename_i tables after hnames
    rw [rest_of_names?_stray hfront hc hword hnames, where?_stray hc]
    rfl

/-- The fields of a selection do not go past a stray character. -/
theorem selectionFrom?_stray (hfront : ∀ d ∈ front, isFieldChar d = true ∧ isBlank d = false)
    (hc : isIdentifierChar c = true) (hword : isWordChar c = false) :
    selectionFrom? [] (front ++ c :: rest) = none := by
  rw [selectionFrom?_append hfront, selectionFrom?, isFieldChar_of_isIdentifierChar hc, hword]
  rfl

/-- A text of word characters, or a stray character after them, begins with something to read. -/
theorem begins_stray (hfront : ∀ d ∈ front, isBlank d = false) (hc : isIdentifierChar c = true) :
    Begins (front ++ c :: rest) := by
  cases front with
  | nil => exact ⟨c, rfl, isBlank_of_isIdentifierChar hc⟩
  | cons d front => exact ⟨d, rfl, hfront d List.mem_cons_self⟩

/-! ## Lines with a stray character -/

theorem isGap_space : IsGap [' '] := by decide

theorem isBlank_of_word (hfront : ∀ d ∈ front, isWordChar d = true) :
    ∀ d ∈ front, isBlank d = false := fun d hd => isBlank_of_isWordChar (hfront d hd)

theorem deletion?_stray (hfront : ∀ d ∈ front, isWordChar d = true)
    (hc : isIdentifierChar c = true) (hword : isWordChar c = false) :
    deletion? (" FROM ".toList ++ (front ++ c :: rest)) = none := by
  have hkeyword : keywordThen? ['f', 'r', 'o', 'm']
      ("FROM".toList ++ ([' '] ++ (front ++ c :: rest))) = some (front ++ c :: rest) := by
    rw [keywordThen?, keyword?_append (by decide), Option.bind_some,
      blankRun?_append isGap_space (begins_stray (isBlank_of_word hfront) hc)]
  have hgap : blankRun? (" FROM ".toList ++ (front ++ c :: rest))
      = some ("FROM".toList ++ ([' '] ++ (front ++ c :: rest))) :=
    blankRun?_append isGap_space ⟨'F', rfl, by decide⟩
  rw [deletion?, hgap, Option.bind_some, from?, hkeyword, Option.bind_some,
    scope?_stray hfront hc hword]
  rfl

theorem insertion?_stray (hfront : ∀ d ∈ front, isWordChar d = true)
    (hc : isIdentifierChar c = true) (hword : isWordChar c = false) :
    insertion? (" INTO ".toList ++ (front ++ c :: rest)) = none := by
  have hinto : between? ['i', 'n', 't', 'o'] (" INTO ".toList ++ (front ++ c :: rest))
      = some (front ++ c :: rest) :=
    between?_append (solid_of_head (by decide) _) isGap_space
      (by decide : "INTO".toList.map foldCase = ['i', 'n', 't', 'o']) isGap_space
      (begins_stray (isBlank_of_word hfront) hc)
  rw [insertion?, hinto, Option.bind_some, Option.bind_eq_none_iff]
  rintro ⟨word, after⟩ hafter
  obtain rfl := rest_of_word?_stray hfront hword hafter
  dsimp only
  rw [blankRun?_stray hc, Option.bind_none]

theorem selection?_stray (hfront : ∀ d ∈ front, isFieldChar d = true ∧ isBlank d = false)
    (hc : isIdentifierChar c = true) (hword : isWordChar c = false) :
    selection? ([' '] ++ (front ++ c :: rest)) = none := by
  have hbegins : Begins (front ++ c :: rest) := begins_stray (fun d hd => (hfront d hd).2) hc
  have hshort : (([' '] ++ (front ++ c :: rest)).takeWhile isBlank).length < 3 := by
    obtain ⟨d, hd, hblank⟩ := hbegins
    obtain ⟨more, hmore⟩ := List.head?_eq_some_iff.1 hd
    have hspace : isBlank ' ' = true := by decide
    simp [hmore, hblank, hspace]
  simp only [selection?, blankRun?_append isGap_space hbegins,
    selectionFrom?_stray hfront hc hword, hshort, if_true]

/-- A line in which no form goes through is refused. -/
theorem parse_of_none {line : String} (hline : line.toList = s) (hbegins : Begins s)
    (hends : Ends line.toList)
    (hselect : (keyword? ['s', 'e', 'l', 'e', 'c', 't'] s).bind selection? = none)
    (hinsert : (keyword? ['i', 'n', 's', 'e', 'r', 't'] s).bind insertion? = none)
    (hdelete : (keyword? ['d', 'e', 'l', 'e', 't', 'e'] s).bind deletion? = none) :
    parse line = .error .notAStatement := by
  rw [← hline] at hbegins hselect hinsert hdelete
  have htrim := trim_append (List.forall_mem_nil _) (List.forall_mem_nil _) hbegins hends
  rw [List.nil_append, List.append_nil] at htrim
  simp only [parse, htrim, hselect, hinsert, hdelete]

/-- A line with an identifier at the end ends with something to read. -/
theorem ends_append {text : String} (h : isIdentifier name = true) :
    Ends (text ++ name).toList := by
  rw [String.toList_append]
  refine Ends.append ?_ _
  have hne := toList_ne_nil_of_isIdentifier h
  rw [isIdentifier, Bool.and_eq_true, List.all_eq_true] at h
  exact ⟨_, List.getLast?_eq_some_getLast hne,
    isBlank_of_isIdentifierChar (h.2 _ (List.getLast_mem hne))⟩

/-! ## Lines with declared names -/

theorem scopeText_single (name : String) :
    ScopeText [name] none ("FROM".toList ++ ([' '] ++ name.toList)) :=
  .all (by decide) isGap_space (.single name)

/-- A deletion from a declared table is read if the name of the table is a word. -/
theorem parse_deletion (hname : isIdentifier name = true) :
    parse ("DELETE FROM " ++ name)
      = if IsWord name.toList then .ok (.delete [name]) else .error .notAStatement := by
  have htext : ("DELETE FROM " ++ name).toList
      = "DELETE".toList ++ (" FROM ".toList ++ name.toList) := String.toList_append ..
  split
  · rename_i hword
    have hdelete : "DELETE".toList.map foldCase = ['d', 'e', 'l', 'e', 't', 'e'] := by decide
    refine parse_of_renders (List.forall_mem_singleton.2 hword)
      (.delete hdelete isGap_space (scopeText_single name) .nothing)
      (List.forall_mem_nil _) (List.forall_mem_nil _) ?_
    rw [htext, List.append_nil, List.append_nil]
    rfl
  · rename_i hword
    obtain ⟨front, c, rest, heq, hfront, hc, hstray⟩ := exists_stray hname hword
    refine parse_of_none htext ⟨'D', rfl, by decide⟩ (ends_append hname) rfl rfl ?_
    rw [keyword?_append (by decide), Option.bind_some, heq, deletion?_stray hfront hc hstray]

/-- A selection of a declared column is read if its name and that of its table are words. -/
theorem parse_selection (hname : isIdentifier name = true) (hcolumn : isIdentifier column = true) :
    parse ("SELECT " ++ qualified name column ++ " FROM " ++ name)
      = if IsWord name.toList ∧ IsWord column.toList then
          .ok (.select [qualified name column] [name] none)
        else .error .notAStatement := by
  have htext : ("SELECT " ++ qualified name column ++ " FROM " ++ name).toList
      = "SELECT".toList ++ ([' '] ++ ((qualified name column).toList
        ++ ([' '] ++ ("FROM".toList ++ ([' '] ++ name.toList))))) := by
    simp only [String.toList_append, List.append_assoc]
    rfl
  split
  · rename_i hwords
    have hselect : "SELECT".toList.map foldCase = ['s', 'e', 'l', 'e', 'c', 't'] := by decide
    have hfield : IsField (qualified name column).toList :=
      ⟨_, _, hwords.1, hwords.2, toList_qualified name column⟩
    have hplain : (Statement.select [qualified name column] [name] none).IsPlain :=
      ⟨List.forall_mem_singleton.2 hfield, List.forall_mem_singleton.2 hwords.1, nofun⟩
    refine parse_of_renders hplain
      (.select hselect isGap_space (.single _) isGap_space (scopeText_single name) .nothing)
      (List.forall_mem_nil _) (List.forall_mem_nil _) ?_
    rw [htext, List.append_nil, List.append_nil]
    rfl
  · rename_i hwords
    -- the field up to the stray character, be it in the table or in the column
    obtain ⟨front, c, rest, heq, hfront, hc, hstray⟩ : ∃ front c rest,
        (qualified name column).toList = front ++ c :: rest ∧
          (∀ d ∈ front, isFieldChar d = true ∧ isBlank d = false) ∧
          isIdentifierChar c = true ∧ isWordChar c = false := by
      have hpassed : ∀ {word : List Char}, (∀ d ∈ word, isWordChar d = true) →
          ∀ d ∈ word, isFieldChar d = true ∧ isBlank d = false := fun hword d hd =>
        ⟨by simp [isFieldChar, hword d hd], isBlank_of_isWordChar (hword d hd)⟩
      rw [toList_qualified]
      by_cases hword : IsWord name.toList
      · obtain ⟨front, c, rest, heq, hfront, hc, hstray⟩ :=
          exists_stray hcolumn fun h => hwords ⟨hword, h⟩
        refine ⟨name.toList ++ '.' :: front, c, rest, by rw [heq]; simp, ?_, hc, hstray⟩
        rw [List.forall_mem_append, List.forall_mem_cons]
        exact ⟨hpassed hword.2, by decide +kernel, hpassed hfront⟩
      · obtain ⟨front, c, rest, heq, hfront, hc, hstray⟩ := exists_stray hname hword
        exact ⟨front, c, rest ++ '.' :: column.toList, by rw [heq]; simp, hpassed hfront, hc,
          hstray⟩
    refine parse_of_none htext ⟨'S', rfl, by decide⟩ (ends_append hname) ?_ rfl rfl
    have hbody (more : List Char) :
        (qualified name column).toList ++ more = front ++ c :: (rest ++ more) := by rw [heq]; simp
    rw [keyword?_append (by decide), Option.bind_some, hbody, selection?_stray hfront hc hstray]

/-- An insertion into a declared table is read if the name of the table is a word. -/
theorem parse_insertion (hname : isIdentifier name = true) {values : List String} {text : String}
    (hvalues : ∀ v ∈ values, IsLiteral v.toList) (hjoined : Joined quotedLiteral values text.toList)
    (hline : '\n' ∉ text.toList) :
    parse ("INSERT INTO " ++ name ++ " VALUES (" ++ text ++ ")")
      = if IsWord name.toList then .ok (.insert name values) else .error .notAStatement := by
  have htext : ("INSERT INTO " ++ name ++ " VALUES (" ++ text ++ ")").toList
      = "INSERT".toList ++ (" INTO ".toList ++ (name.toList
        ++ ([' '] ++ ("VALUES".toList ++ ([' '] ++ '(' :: (text.toList ++ [')'])))))) := by
    simp only [String.toList_append, List.append_assoc]
    rfl
  split
  · rename_i hword
    have hinsert : "INSERT".toList.map foldCase = ['i', 'n', 's', 'e', 'r', 't'] := by decide
    have hinto : "INTO".toList.map foldCase = ['i', 'n', 't', 'o'] := by decide
    have hkeyword : "VALUES".toList.map foldCase = ['v', 'a', 'l', 'u', 'e', 's'] := by decide
    have hplain : (Statement.insert name values).IsPlain := ⟨hword, hvalues⟩
    refine parse_of_renders hplain
      (.insert hinsert isGap_space hinto isGap_space isGap_space hkeyword isGap_space.2
        (List.forall_mem_nil _) hjoined (List.forall_mem_nil _) (by simpa using hline) .nothing)
      (List.forall_mem_nil _) (List.forall_mem_nil _) ?_
    rw [htext]
    simp only [List.append_nil, List.nil_append]
    rfl
  · rename_i hword
    obtain ⟨front, c, rest, heq, hfront, hc, hstray⟩ := exists_stray hname hword
    have hends : Ends ("INSERT INTO " ++ name ++ " VALUES (" ++ text ++ ")").toList := by
      rw [String.toList_append]
      exact ends_concat (by decide) _
    refine parse_of_none htext ⟨'I', rfl, by decide⟩ hends rfl ?_ rfl
    rw [keyword?_append (by decide), Option.bind_some, heq, List.append_assoc, List.cons_append,
      insertion?_stray hfront hc hstray]

end Statement

namespace Database

open Statement

/-- The name of a declared table and the names of its columns can be used in a line if they are
words, and they are if all their numbers are digits or letters. -/
theorem parse_declared {db : Database} (hvalid : db.schema.validate = .ok ()) {name : String}
    {t : Table} (ht : db.table? name = some t) {column : String} (hcolumn : column ∈ t.columns) :
    Query.checkFields [t] [qualified name column] = .ok () ∧
    parse ("SELECT " ++ qualified name column ++ " FROM " ++ name)
      = (if IsWord name.toList ∧ IsWord column.toList then
          .ok (.select [qualified name column] [name] none)
        else .error .notAStatement) ∧
    parse ("DELETE FROM " ++ name)
      = (if IsWord name.toList then .ok (.delete [name]) else .error .notAStatement) ∧
    (∀ (values : List String) (text : String), values.length + 1 = t.columns.length →
      (∀ v ∈ values, IsLiteral v.toList) → Joined quotedLiteral values text.toList →
      '\n' ∉ text.toList →
      parse ("INSERT INTO " ++ name ++ " VALUES (" ++ text ++ ")")
        = if IsWord name.toList then .ok (.insert name values) else .error .notAStatement) ∧
    ((∀ c ∈ name.toList ++ column.toList, Property.otherNumber.holds c.toNat = false) →
      IsWord name.toList ∧ IsWord column.toList) := by
  obtain rfl := name_of_table? ht
  have hp := proper_of_table? hvalid ht
  have hident := hp.identifiers column hcolumn
  refine ⟨Table.checkFields_map hp (List.forall_mem_singleton.2 hcolumn),
    parse_selection hp.name hident, parse_deletion hp.name,
    fun values text _ hvalues hjoined hline => parse_insertion hp.name hvalues hjoined hline,
    fun hnumber => ?_⟩
  rw [List.forall_mem_append] at hnumber
  exact ⟨isWord_of_isIdentifier hp.name hnumber.1, isWord_of_isIdentifier hident hnumber.2⟩

/-- The three lines for a declared column whose values look like the rest of a line. -/
theorem sample_parse_declared :
    Query.checkFields [sampleBeer] ["beer.beer_pk"] = .ok () ∧
    parse "SELECT beer.beer_pk FROM beer" = .ok (.select ["beer.beer_pk"] ["beer"] none) ∧
    parse "DELETE FROM beer" = .ok (.delete ["beer"]) ∧
    parse "INSERT INTO beer VALUES (' VALUES (x);' , 'from')"
      = .ok (.insert "beer" [" VALUES (x);", "from"]) := by
  have hname : IsWord "beer".toList := by decide +kernel
  have hwords : IsWord "beer".toList ∧ IsWord "beer_pk".toList := by decide +kernel
  have hvalues : ∀ v ∈ [" VALUES (x);", "from"], IsLiteral v.toList := by
    simp [IsLiteral]
  have hjoined : Joined quotedLiteral [" VALUES (x);", "from"] "' VALUES (x);' , 'from'".toList :=
    .cons " VALUES (x);" isGap_space.2 isGap_space.2 (.single "from")
  obtain ⟨hfields, hselect, hdelete, hinsert, -⟩ := parse_declared validate_sample
    table?_sample_beer (by decide : "beer_pk" ∈ sampleBeer.columns)
  have hline := hinsert [" VALUES (x);", "from"] "' VALUES (x);' , 'from'" rfl hvalues hjoined
    (by decide)
  rw [if_pos hwords] at hselect
  rw [if_pos hname] at hdelete hline
  have hfield : qualified "beer" "beer_pk" = "beer.beer_pk" := by decide
  rw [hfield] at hfields hselect
  exact ⟨hfields, hselect, hdelete, hline⟩

/-- A table with a superscript in its name can be declared, but no line can name it. -/
theorem parse_superscript :
    let schema : Schema := ⟨"pub", 3, .ofList [("x²", ["name"])]⟩
    schema.validate = .ok () ∧ schema.columns? "x²" = some ["x²_pk", "name"] ∧
      parse "SELECT x².name FROM x²" = .error .notAStatement ∧
      parse "DELETE FROM x²" = .error .notAStatement ∧
      parse "INSERT INTO x² VALUES ('Duvel')" = .error .notAStatement := by
  decide +kernel

end Database

end SheetStore
