import SheetStore.Proofs.Condition.Parser
import SheetStore.Proofs.Keys
import SheetStore.Proofs.Modes

/-!
# Inserted rows stay

A row that was inserted can be selected by its key, unchanged and as the only one, as long as no step
deletes it (`inserted_row_stays`).  A step *spares* a record if it neither empties the table nor
deletes from it under a condition that the record meets (`Step.spares`).  Everything else may happen
in between: other rows of the table are inserted before and after the record and deleted again,
statements fail, and the database is opened again in any mode.

The record is there after each step that spares it (`Memory.step_keeps_record`), and the order of the
keys, which every step keeps, makes it the only one with its key.
-/

namespace SheetStore

/-- Whether the step leaves a record of the table alone. -/
def Step.spares (t : Table) (record : Record) : Step → Bool
  | .execute line =>
      match Statement.parse line with
      | .ok (.delete tables) => !tables.contains t.name
      | .ok (.deleteWhere tables text) =>
          !tables.contains t.name ||
            match Condition.parse text with
            | .ok condition => !condition.admits [t.name] t.name (t.row record)
            | .error _ => true
      | _ => true
  | _ => true

namespace Memory

variable {db : Database} {t : Table} {record : Record}

/-- A deletion of rows keeps the records that its condition does not select. -/
theorem mem_records_deleteWhere {c : Contents} {selects : Record → Bool}
    (hselects : selects record = false) (h : record ∈ c.records) :
    record ∈ (c.deleteWhere selects).records := by
  rw [Contents.records_deleteWhere]
  exact List.mem_filter.2 ⟨h, by rw [hselects]; rfl⟩

theorem mem_records_insert {c : Contents} (limit : Nat) (values : List String)
    (h : record ∈ c.records) : record ∈ (c.insert limit values).records :=
  (Contents.flatten_place_perm limit _ c.pages).mem_iff.2 (List.mem_cons_of_mem _ h)

/-- A deletion keeps the records of a table that it does not name. -/
theorem deleteEach_keeps_record {names : List String} (h : t.name ∉ names) :
    Keeps (fun m => record ∈ (m t.name).records) (deleteEach db names) := by
  intro m hm
  rw [stateOf_deleteEach_of_not_mem h]
  exact hm

/-- A conditional deletion keeps a record of a table that it does not name, and one that does not
meet its condition. -/
theorem deleteWhereEach_keeps_record (ht : db.table? t.name = some t) {condition : Condition}
    {names : List String}
    (h : t.name ∉ names ∨ condition.holds [t.name] (t.row record) = false) :
    Keeps (fun m => record ∈ (m t.name).records) (deleteWhereEach db condition names) := by
  intro m hm
  rw [stateOf_deleteWhereEach, without]
  split
  · rename_i hnamed
    have hholds := h.resolve_left (not_not.2 ((List.takeWhile_sublist _).subset hnamed))
    refine mem_records_deleteWhere ?_ hm
    rw [selects, ht]
    exact hholds
  · exact hm

/-- A step that spares a record keeps it. -/
theorem step_keeps_record (ht : db.table? t.name = some t) {step : Step}
    (hspares : step.spares t record = true) :
    Keeps (fun m => record ∈ (m t.name).records) (Memory.step db step) := by
  cases hinsert : step.insertion? with
  | some insertion =>
      intro m hm
      rw [step_of_insertion? hinsert, state_map]
      have hkeeps : Keeps (Everywhere fun name c => name = t.name → record ∈ c.records)
          (insert db insertion.1 insertion.2) :=
        insert_keeps (fun _ _ values h heq => mem_records_insert _ values (h heq)) _ _
      exact hkeeps m (fun name heq => heq ▸ hm) t.name rfl
  | none =>
      cases step with
      | insert table values => cases hinsert
      | reopen => exact .pure none
      | execute line =>
          rw [Memory.step]
          rw [Step.spares] at hspares
          rw [Step.insertion?] at hinsert
          cases hparse : Statement.parse line with
          | error failure => exact fun m hm => hm
          | ok statement =>
              rw [hparse] at hspares hinsert
              refine Keeps.map ?_ some
              cases statement with
              | select fields tables text =>
                  exact (asking_keeps _).bind fun _ => (asking_keeps _).bind fun _ =>
                    (asking_keeps _).bind fun _ => .pure _
              | insert table values => cases hinsert
              | delete tables =>
                  have hnamed : t.name ∉ tables := by simpa using hspares
                  exact (deleteEach_keeps_record hnamed).bind fun _ => .pure _
              | deleteWhere tables text =>
                  rw [run]
                  cases hcondition : Condition.parse text with
                  | error failure => exact fun m hm => hm
                  | ok condition =>
                      simp only [hcondition] at hspares
                      have hdelete : Keeps (fun m => record ∈ (m t.name).records)
                          (deleteWhereEach db condition tables) :=
                        deleteWhereEach_keeps_record ht
                          (by simpa [Condition.admits_eq_holds] using hspares)
                      exact fun m hm => (hdelete.bind fun _ => .pure _) m hm

end Memory

namespace Database

variable {db : Database} {files stored : FileTree} {m : Memory} {t : Table} {key : Nat}
  {values : List String}

/-- The condition that asks for a key of a table. -/
def keyCondition (t : Table) (key : Nat) : String :=
  comparisonText t.name (keyColumn t.name) (toString key)

/-- The condition that asks for a key is one comparison. -/
theorem parse_keyCondition (hvalid : db.schema.validate = .ok ()) (ht : db.table? t.name = some t)
    (key : Nat) : Condition.parse (keyCondition t key)
      = .ok (.equals t.name (keyColumn t.name) (toString key)) := by
  have hp := proper_of_table? hvalid ht
  have hquote : '\'' ∉ (toString key).toList := Text.not_mem_toString (by decide) key
  have hblanks : (toString key).toList.countP Text.isBlank = 0 :=
    List.countP_eq_zero.2 fun c hc => by
      simp [Text.isBlank_of_isDigit (Text.isDigit_of_mem_toString hc)]
  have hmentions : ∀ word, ¬ Text.Mentions word (toString key).toList := fun word =>
    Text.not_mentions_of_countP (by rw [hblanks]; exact Nat.zero_lt_two)
  exact (Condition.parse_comparisonText_iff hp.name (hp.identifiers _ (keyColumn_mem ht)) hquote).2
    ⟨hmentions _, hmentions _⟩

/-- A record whose keys are in order is selected by its key, and no other record is. -/
theorem run_selectKey (hvalid : db.schema.validate = .ok ()) (h : db.Mirrors files m)
    (ht : db.table? t.name = some t) {next : Nat} (hkeys : KeysInOrder next (m t.name).pages)
    (hr : keyedRecord key values ∈ (m t.name).records) :
    (Statement.selectAll t (some (keyCondition t key))).run db files
      = .ok (.rows t.fields [keyedRecord key values]) files := by
  have hread : Statement.readCondition (some (keyCondition t key))
      = .ok (some (.equals t.name (keyColumn t.name) (toString key))) := by
    rw [Statement.readCondition, parse_keyCondition hvalid ht]
    rfl
  have hfilter : (m t.name).records.filter (Memory.selects db
      (.equals t.name (keyColumn t.name) (toString key)) t.name) = [keyedRecord key values] := by
    rw [← hkeys.filter_head?_eq hr]
    refine List.filter_congr fun q hq => ?_
    rw [selects_equals hvalid h ht _ _ hq, Table.value?_first (head?_columns_of_table? ht)]
    rfl
  rw [run_selectAll hvalid h ht hread]
  simp only [Option.all_some, hfilter]

/-- After an insertion into a table of a database in any state, its row can be selected by its key as
long as all steps spare it.  The answer is that row with the inserted values, and no other, in every
mode. -/
theorem inserted_row_stays (hvalid : db.schema.validate = .ok ())
    (hreached : db.ReachedInModes files) (ht : db.table? t.name = some t)
    (hinsert : db.insert t.name values files = .ok key stored) {steps : List (JoinMode × Step)}
    (hspares : ∀ step ∈ steps, step.2.spares t (keyedRecord key values) = true) (mode : JoinMode) :
    (Statement.selectAll t (some (keyCondition t key))).run (db.withMode mode)
        (runSteps db.stepIn steps stored).2
      = .ok (.rows t.fields [keyedRecord key values]) (runSteps db.stepIn steps stored).2 := by
  have hlimit := Schema.sheetLimit_pos hvalid
  have horder : ∀ step, Keeps (Memory.Everywhere fun _ c => c.InOrder db.schema.sheetLimit)
      (Memory.step db step) :=
    Memory.step_keeps (fun _ => .initial) (fun _ _ values h => h.insert hlimit values)
      fun _ _ selects h => h.deleteWhere selects
  -- the memory right after the insertion
  obtain ⟨m, hm, hmOrder⟩ := hreached.reached.exists_mirrors_with hvalid
    (p := Memory.Everywhere fun _ c => c.InOrder db.schema.sheetLimit) (fun _ => .initial) horder
  obtain ⟨rfl, hstored⟩ := hm.of_insert hvalid hinsert
  have hnew := (hmOrder t.name).insert hlimit values
  have hplaced : keyedRecord (m t.name).nextKey values
      ∈ ((m t.name).insert db.schema.sheetLimit values).records :=
    (Contents.flatten_place_perm _ _ _).mem_iff.2 List.mem_cons_self
  have hupdated : Memory.Everywhere (fun _ c => c.InOrder db.schema.sheetLimit)
      (Function.update m t.name ((m t.name).insert db.schema.sheetLimit values)) := by
    intro name
    by_cases heq : name = t.name
    · rw [heq, Function.update_self]
      exact hnew
    · rw [Function.update_of_ne heq]
      exact hmOrder name
  -- the memory at the end
  have hkeeps : ∀ step ∈ steps.map Prod.snd, Keeps (fun m' : Memory =>
      Memory.Everywhere (fun _ c => c.InOrder db.schema.sheetLimit) m' ∧
        keyedRecord (m t.name).nextKey values ∈ (m' t.name).records) (Memory.step db step) := by
    intro step hstep
    obtain ⟨step, hmem, rfl⟩ := List.mem_map.1 hstep
    exact fun m' hm' => ⟨horder step.2 m' hm'.1,
      Memory.step_keeps_record ht (hspares step hmem) m' hm'.2⟩
  obtain ⟨m', hm', horder', hrecord⟩ := exists_mirrors_runSteps hvalid hkeeps hstored
    ⟨hupdated, by rw [Function.update_self]; exact hplaced⟩
  have hvalid' : (db.withMode mode).schema.validate = .ok () := hvalid
  have ht' : (db.withMode mode).table? t.name = some t := ht
  rw [runSteps_stepIn]
  exact run_selectKey hvalid' (hm'.withMode mode) ht' (horder' t.name).keys hrecord

/-- The second beer stays when the first is deleted and a third one takes its place on the sheet. -/
theorem sample_inserted_row_stays :
    let files := (runSteps sample.stepIn [(.joined, .insert "beer" ["Duvel", "Ale"])]
      (stateOf (sample.ensure FileTree.empty))).2
    let stored := stateOf (sample.insert "beer" ["Orval", "Trappist"] files)
    let last := (runSteps sample.stepIn [(.perTable, .reopen),
      (.perTable, .execute "DELETE FROM beer WHERE beer.style = 'Ale'"),
      (.joined, .execute "INSERT INTO beer VALUES ('Kriek', 'Lambic')")] stored).2
    answerOf (sample.insert "beer" ["Orval", "Trappist"] files) = .ok 2 ∧
      (Statement.selectAll sampleBeer (some (keyCondition sampleBeer 2))).run
          (sample.withMode .perTable) last
        = .ok (.rows sampleBeer.fields [["2", "Orval", "Trappist"]]) last := by
  intro files stored last
  have hreached : sample.ReachedInModes files :=
    ⟨FileTree.empty, _, _, Path.emptyIn_empty "data", openAt_sample, rfl⟩
  have hinsert : answerOf (sample.insert "beer" ["Orval", "Trappist"] files) = .ok 2 := by
    decide +kernel
  exact ⟨hinsert, inserted_row_stays validate_sample hreached table?_sample_beer
    (eq_ok_of_answerOf hinsert) (by decide +kernel) .perTable⟩

end Database

end SheetStore
