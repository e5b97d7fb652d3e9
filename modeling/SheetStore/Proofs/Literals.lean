import SheetStore.Proofs.Durability
import SheetStore.Proofs.Statement.Parser

/-!
# Literals in insertions and conditions

A value in quotes is read in two places, as a token of an insertion and on the right of a comparison.
The reader of insertions goes from character to character and knows where it is inside quotes.  The
reader of conditions cuts the text at `OR`, at `AND`, at the equals sign and at the point, and looks
at quotes last.

Both read the same value if it has no quote and mentions neither operator (`inserted_literal_found`).
A value that mentions one, such as `sweet or sour`, is stored as it is and not found again
(`sample_mentioned_operator`).
-/

namespace SheetStore

open Text Statement

namespace Database

variable {db : Database} {files stored : FileTree} {t : Table} {key : Nat} {column value : String}

/-! ## Storing a literal -/

/-- A line that was executed as an insertion has inserted its values. -/
theorem of_execute_insertion {name line : String} {text : List Char}
    (hline : (keyword? ['i', 'n', 's', 'e', 'r', 't'] (trim line.toList)).bind insertion?
      = some (name, text)) (h : db.execute line files = .ok (.inserted key) stored) :
    ∃ all, Statement.values text = .ok all ∧ db.insert name all files = .ok key stored := by
  rw [execute, parse_of_insertion? hline] at h
  cases hvalues : Statement.values text with
  | error failure =>
      rw [hvalues] at h
      cases h
  | ok all =>
      rw [hvalues] at h
      have hrun : Statement.run db (.insert name all) files = .ok (.inserted key) stored := h
      rw [run_insert, map_eq_pure_bind] at hrun
      obtain ⟨key', stored', hinsert, hkey⟩ := of_bind_eq_ok hrun
      cases hkey
      exact ⟨all, rfl, hinsert⟩

/-- What was inserted has no line feed. -/
theorem lineFeed_not_mem_of_insert {name : String} {all : List String}
    (h : db.insert name all files = .ok key stored) : ∀ v ∈ all, '\n' ∉ v.toList := by
  rw [insert] at h
  cases htable : db.insertionTable name all with
  | error failure =>
      rw [htable] at h
      cases h
  | ok u => exact fun v hv => (of_checkValues (checks_of_insertionTable htable).2.2 v hv).2.1

/-! ## Finding a literal -/

/-- A comparison can stand at the end of a line. -/
theorem printed_comparisonText (htable : isIdentifier t.name = true)
    (hcolumn : isIdentifier column = true) (hvalue : '\n' ∉ value.toList) :
    Printed (comparisonText t.name column value) where
  first := by
    obtain ⟨c, rest, hcons⟩ := List.exists_cons_of_ne_nil
      (Condition.qualified_ne_nil t.name column)
    refine ⟨c, ?_, Condition.isBlank_of_mem_qualified htable hcolumn (hcons ▸ List.mem_cons_self)⟩
    rw [Condition.toList_comparisonText, hcons]
    rfl
  last := by
    refine ⟨'\'', ?_, by decide, by decide⟩
    rw [comparisonText, String.toList_append, List.getLast?_append]
    rfl
  no_lineFeed := by
    rw [Condition.toList_comparisonText, List.mem_append, not_or]
    refine ⟨Condition.not_mem_qualified htable hcolumn (by decide) (by decide), ?_⟩
    simp [hvalue]

/-- The key column can be asked for in a line if the name of the table can. -/
theorem isField_keyField (hword : IsWord t.name.toList) :
    IsField (qualified t.name (keyColumn t.name)).toList := by
  have hsuffix : ∀ c ∈ "_pk".toList, isWordChar c = true :=
    List.all_eq_true.1 (by decide +kernel)
  refine ⟨t.name.toList, (keyColumn t.name).toList, hword, ⟨?_, fun c hc => ?_⟩,
    toList_qualified ..⟩
  · simp [keyColumn]
  · rw [keyColumn, String.toList_append, List.mem_append] at hc
    exact hc.elim (hword.2 c) (hsuffix c)

/-- A selection of the keys with a value in a column answers the keys of the records that have it. -/
theorem execute_selectKeys (hvalid : db.schema.validate = .ok ()) {m : Memory}
    (h : db.Mirrors files m) (ht : db.table? t.name = some t)
    (hword : IsWord t.name.toList) (hcolumn : column ∈ t.columns)
    (hlineFeed : '\n' ∉ value.toList)
    (hparse : Condition.parse (comparisonText t.name column value)
      = .ok (.equals t.name column value)) :
    db.execute (selectionText (qualified t.name (keyColumn t.name)) t.name
        (comparisonText t.name column value)) files
      = .ok (.rows [qualified t.name (keyColumn t.name)]
          (((m t.name).records.filter fun r => t.value? r column = some value).map (·.take 1)))
        files := by
  have hp := proper_of_table? hvalid ht
  have hfields : Query.checkFields [t] [qualified t.name (keyColumn t.name)] = .ok () :=
    Table.checkFields_map hp (List.forall_mem_singleton.2 (keyColumn_mem ht))
  have hread : Statement.readCondition (some (comparisonText t.name column value))
      = .ok (some (.equals t.name column value)) := by
    rw [Statement.readCondition, hparse]
    rfl
  have hline : Statement.parse (selectionText (qualified t.name (keyColumn t.name)) t.name
      (comparisonText t.name column value)) = .ok (.select [qualified t.name (keyColumn t.name)]
        [t.name] (some (comparisonText t.name column value))) :=
    parse_selectionText (isField_keyField hword) hword
      (printed_comparisonText hp.name (hp.identifiers column hcolumn) hlineFeed)
  have hfilter : (m t.name).records.filter (Memory.selects db (.equals t.name column value) t.name)
      = (m t.name).records.filter fun r => t.value? r column = some value :=
    List.filter_congr fun r hr => selects_equals hvalid h ht column value hr
  have hproject : ∀ r ∈ (m t.name).records,
      Query.project [qualified t.name (keyColumn t.name)] (t.row r) = r.take 1 := by
    intro r hr
    rw [Table.project_single hp (h.length_of_mem ht hr),
      Table.value?_first (head?_columns_of_table? ht)]
    cases r <;> rfl
  rw [execute, hline]
  refine (bind_of_ok rfl).trans ?_
  rw [run_selectSingle hvalid h ht hfields hread]
  simp only [Option.all_some, hfilter]
  rw [List.map_congr_left fun r hr => hproject r (List.mem_of_mem_filter hr)]

/-! ## Storing and finding a literal -/

/-- A value that is put in quotes into an insertion, and in quotes into the condition of a selection,
is the same value, if it mentions no operator.  So the selection answers the keys of the records with
the value in the column, that of the new record among them. -/
theorem inserted_literal_found (hvalid : db.schema.validate = .ok ()) (hreached : db.Reached files)
    (ht : db.table? t.name = some t) (hword : ∀ c ∈ t.name.toList, isWordChar c = true) {i : Nat}
    (hcolumn : t.columns[i + 1]? = some column) (hquote : '\'' ∉ value.toList)
    (hor : ¬ Mentions ['o', 'r'] value.toList) (hand : ¬ Mentions ['a', 'n', 'd'] value.toList)
    {line : String} {text : List Char}
    (hline : (keyword? ['i', 'n', 's', 'e', 'r', 't'] (trim line.toList)).bind insertion?
      = some (t.name, text))
    (htoken : (valuesFrom false [] text)[i]?.map trim = some (quotedLiteral value))
    (hinsert : db.execute line files = .ok (.inserted key) stored) :
    Condition.parse (comparisonText t.name column value) = .ok (.equals t.name column value) ∧
      ∃ sheets keys, t.sheets stored = .ok sheets ∧
        keys = ((sheets.flatMap Prod.snd).filter fun r => t.value? r column = some value).map
          (·.take 1) ∧
        [toString key] ∈ keys ∧
        db.execute (selectionText (qualified t.name (keyColumn t.name)) t.name
          (comparisonText t.name column value)) stored
            = .ok (.rows [qualified t.name (keyColumn t.name)] keys) stored := by
  have hp := proper_of_table? hvalid ht
  have hmem : column ∈ t.columns := List.mem_of_getElem? hcolumn
  have hparse := (Condition.parse_comparisonText_iff hp.name (hp.identifiers column hmem) hquote).2
    ⟨hor, hand⟩
  obtain ⟨all, hvalues, hstored⟩ := of_execute_insertion hline hinsert
  -- the token is stored as the value
  have hvalue : all[i]? = some value := by
    obtain ⟨token, htoken, htrim⟩ := Option.map_eq_some_iff.1 htoken
    rw [getElem?_of_values hvalues, htoken, Option.map_some, bareValue_of_quoted hquote htrim,
      String.ofList_toList]
  have hlineFeed := lineFeed_not_mem_of_insert hstored value (List.mem_of_getElem? hvalue)
  obtain ⟨m, hm⟩ := hreached.exists_mirrors hvalid
  obtain ⟨rfl, hmirrors⟩ := hm.of_insert hvalid hstored
  have hrecords : ((m t.name).insert db.schema.sheetLimit all).records.Perm
      (keyedRecord (m t.name).nextKey all :: (m t.name).records) :=
    Contents.flatten_place_perm _ _ _
  have hselect := execute_selectKeys hvalid hmirrors ht
    ⟨toList_ne_nil_of_isIdentifier hp.name, hword⟩ hmem hlineFeed hparse
  rw [Function.update_self] at hselect
  refine ⟨hparse, _, _, hmirrors.sheets_eq ht hvalid, rfl, ?_, ?_⟩
  · rw [Sheet.flatMap_snd_numbered, Function.update_self]
    have hnew : t.value? (keyedRecord (m t.name).nextKey all) column = some value :=
      Table.value?_of_getElem? hp.nodup hcolumn hvalue
    refine List.mem_map.2 ⟨keyedRecord (m t.name).nextKey all, List.mem_filter.2 ⟨?_, ?_⟩, rfl⟩
    · exact hrecords.mem_iff.2 List.mem_cons_self
    · exact decide_eq_true hnew
  · rw [Sheet.flatMap_snd_numbered, Function.update_self]
    exact hselect

/-- A style with blanks, an equals sign, a semicolon and parentheses is found again.  Operators inside
its words do no harm. -/
theorem sample_inserted_literal_found :
    let files := stateOf (sample.ensure FileTree.empty)
    let line := "INSERT INTO beer VALUES ('Saison', 'dry = fresh; (for oriental food)')"
    let stored := stateOf (sample.execute line files)
    answerOf (sample.execute line files) = .ok (.inserted 1) ∧
      sample.execute
          "SELECT beer.beer_pk FROM beer WHERE beer.style = 'dry = fresh; (for oriental food)'" stored
        = .ok (.rows ["beer.beer_pk"] [["1"]]) stored := by
  intro files line stored
  have hreached : sample.Reached files :=
    ⟨FileTree.empty, files, [], Path.emptyIn_empty "data", openAt_sample, rfl⟩
  have hword : sampleBeer.name.toList.all isWordChar = true := by decide +kernel
  have hor : ¬ Mentions ['o', 'r'] "dry = fresh; (for oriental food)".toList :=
    (splitBy_eq_iff (solid_of_head (by decide) _) _).1 (by decide +kernel)
  have hand : ¬ Mentions ['a', 'n', 'd'] "dry = fresh; (for oriental food)".toList :=
    (splitBy_eq_iff (solid_of_head (by decide) _) _).1 (by decide +kernel)
  have hline : (keyword? ['i', 'n', 's', 'e', 'r', 't'] (trim line.toList)).bind insertion?
      = some ("beer", "'Saison', 'dry = fresh; (for oriental food)'".toList) := by
    decide +kernel
  have hinsert : answerOf (sample.execute line files) = .ok (.inserted 1) := by decide +kernel
  obtain ⟨-, sheets, keys, hsheets, hkeys, -, hselect⟩ :=
    inserted_literal_found (t := sampleBeer) (i := 1) validate_sample hreached table?_sample_beer
      (List.all_eq_true.1 hword) rfl (by decide) hor hand hline (by decide +kernel)
      (eq_ok_of_answerOf hinsert)
  have hstored : sampleBeer.sheets stored
      = .ok [(1, [["1", "Saison", "dry = fresh; (for oriental food)"]])] := by decide +kernel
  obtain rfl := Except.ok.inj (hsheets.symm.trans hstored)
  subst hkeys
  exact ⟨hinsert, hselect⟩

/-- A style that mentions an operator is stored as it is, but the comparison with it is read as two,
and the style is not found again. -/
theorem sample_mentioned_operator :
    let files := stateOf (sample.ensure FileTree.empty)
    let line := "INSERT INTO beer VALUES ('Saison', 'sweet or sour')"
    let stored := stateOf (sample.execute line files)
    Condition.parse "beer.style = 'sweet or sour'"
        = .ok (.or (.equals "beer" "style" "sweet") (.malformed "sour'")) ∧
      answerOf (sample.execute line files) = .ok (.inserted 1) ∧
      sample.select ["beer.style"] ["beer"] none stored = .ok [["sweet or sour"]] ∧
      answerOf (sample.execute "SELECT beer.beer_pk FROM beer WHERE beer.style = 'sweet or sour'"
        stored) = .ok (.rows ["beer.beer_pk"] []) := by
  decide +kernel

end Database

end SheetStore
