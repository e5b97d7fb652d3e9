import SheetStore.Proofs.Refinement

/-!
# Keys

The first value of a record is its key, and a table gives every record the next number.  The order
of the keys of a whole table is lost as soon as an insertion fills a gap on an early page.  What
stays is this: on each page the keys increase, no key occurs twice in the table, and all keys are
below the next one (`KeysInOrder`).  The bound is what makes the rest last, since a new record gets
a key above every key that is there, wherever it is placed.

`givenKeys` reads from a run which keys a table gave out since it was made or emptied for the last
time.  They are the numbers from one on, without a gap, and the next key is the number after them.
All of this holds in memory, step by step, and therefore in the files (`runSteps_inOrder`).
-/

namespace SheetStore

/-! ## Keys of records -/

/-- The number that the first value of a record stands for. -/
def Record.key (r : Record) : Nat := (r.head?.bind fun v => Text.numeral? v.toList).getD 0

@[simp] theorem Record.key_keyedRecord (n : Nat) (values : List String) :
    Record.key (keyedRecord n values) = n := by
  rw [Record.key, keyedRecord, List.head?_cons, Option.bind_some, Text.numeral?_toString]
  rfl

/-- The keys on some pages: decimal numerals, below the next key, increasing on each page, and none
twice. -/
structure KeysInOrder (next : Nat) (pages : List Sheet) : Prop where
  /-- The first value is the numeral of the key. -/
  canonical : ∀ page ∈ pages, ∀ r ∈ page, r.head? = some (toString r.key)
  /-- The keys are below the next one. -/
  below : ∀ page ∈ pages, ∀ r ∈ page, r.key < next
  /-- On each page the keys increase. -/
  increasing : ∀ page ∈ pages, page.Pairwise fun a b => a.key < b.key
  /-- No key occurs twice. -/
  distinct : (pages.flatten.map Record.key).Nodup

/-- Placing adds the record and nothing else. -/
theorem Contents.flatten_place_perm (limit : Nat) (record : Record) (pages : List Sheet) :
    (place limit record pages).flatten.Perm (record :: pages.flatten) := by
  induction pages with
  | nil => exact .refl _
  | cons page rest ih =>
      rw [place_cons, List.flatten_cons]
      split
      · rw [List.flatten_cons, List.append_assoc]
        exact List.perm_middle
      · rw [List.flatten_cons]
        exact (ih.append_left page).trans List.perm_middle

/-- Among items with different labels, an item is found by its label alone. -/
theorem filter_eq_singleton_of_nodup [DecidableEq β] {label : α → β} {items : List α}
    (hnodup : (items.map label).Nodup) {a : α} (ha : a ∈ items) :
    items.filter (fun b => label b = label a) = [a] := by
  induction items with
  | nil => cases ha
  | cons b rest ih =>
      rw [List.map_cons, List.nodup_cons] at hnodup
      rcases List.mem_cons.1 ha with rfl | ha
      · have hnone : rest.filter (fun b => label b = label a) = [] := by
          rw [List.filter_eq_nil_iff]
          intro b hb heq
          exact hnodup.1 (List.mem_map.2 ⟨b, hb, of_decide_eq_true heq⟩)
        rw [List.filter_cons_of_pos (by simp), hnone]
      · have hne : label b ≠ label a := fun heq =>
          hnodup.1 (List.mem_map.2 ⟨a, ha, heq.symm⟩)
        rw [List.filter_cons_of_neg (by simpa using hne), ih hnodup.2 ha]

namespace KeysInOrder

variable {next : Nat} {pages : List Sheet}

theorem initial : KeysInOrder Contents.initial.nextKey Contents.initial.pages := by
  constructor <;> simp [Contents.initial]

/-- A record of the next key may be placed anywhere at the end of a page. -/
theorem place (h : KeysInOrder next pages) (limit : Nat) (values : List String) :
    KeysInOrder (next + 1) (Contents.place limit (keyedRecord next values) pages) where
  canonical := by
    have hnew : (keyedRecord next values).head?
        = some (toString (Record.key (keyedRecord next values))) := by
      rw [Record.key_keyedRecord]
      rfl
    refine Contents.forall_mem_place h.canonical (fun page hpage _ => ?_) (by simpa using hnew)
    intro r hr
    rcases List.mem_append.1 hr with hr | hr
    · exact h.canonical page hpage r hr
    · rw [List.mem_singleton.1 hr]
      exact hnew
  below := by
    have hold : ∀ page ∈ pages, ∀ r ∈ page, Record.key r < next + 1 := fun page hpage r hr =>
      Nat.lt_succ_of_lt (h.below page hpage r hr)
    refine Contents.forall_mem_place hold (fun page hpage _ => ?_) (by simp)
    intro r hr
    rcases List.mem_append.1 hr with hr | hr
    · exact hold page hpage r hr
    · rw [List.mem_singleton.1 hr, Record.key_keyedRecord]
      exact Nat.lt_succ_self next
  increasing := by
    refine Contents.forall_mem_place h.increasing (fun page hpage _ => ?_)
      (List.pairwise_singleton _ _)
    rw [List.pairwise_append]
    refine ⟨h.increasing page hpage, List.pairwise_singleton _ _, fun r hr q hq => ?_⟩
    rw [List.mem_singleton.1 hq, Record.key_keyedRecord]
    exact h.below page hpage r hr
  distinct := by
    rw [((Contents.flatten_place_perm limit _ pages).map Record.key).nodup_iff, List.map_cons,
      List.nodup_cons, Record.key_keyedRecord]
    refine ⟨fun hmem => ?_, h.distinct⟩
    obtain ⟨r, hr, hkey⟩ := List.mem_map.1 hmem
    obtain ⟨page, hpage, hr⟩ := List.mem_flatten.1 hr
    exact Nat.ne_of_lt (h.below page hpage r hr) hkey

/-- Records may be removed anywhere. -/
theorem filter (h : KeysInOrder next pages) (kept : Record → Bool) :
    KeysInOrder next (pages.map fun page => page.filter kept) where
  canonical := by
    rw [List.forall_mem_map]
    exact fun page hpage r hr => h.canonical page hpage r (List.mem_of_mem_filter hr)
  below := by
    rw [List.forall_mem_map]
    exact fun page hpage r hr => h.below page hpage r (List.mem_of_mem_filter hr)
  increasing := by
    rw [List.forall_mem_map]
    exact fun page hpage => (h.increasing page hpage).sublist List.filter_sublist
  distinct := by
    rw [← List.filter_flatten]
    exact h.distinct.sublist (List.filter_sublist.map _)

/-- A record is found by its key alone. -/
theorem filter_head?_eq (h : KeysInOrder next pages) {r : Record} (hr : r ∈ pages.flatten) :
    pages.flatten.filter (fun q => q.head? = r.head?) = [r] := by
  have hhead : ∀ q ∈ pages.flatten, (q.head? = r.head? ↔ q.key = r.key) := by
    intro q hq
    obtain ⟨page, hpage, hq⟩ := List.mem_flatten.1 hq
    obtain ⟨page', hpage', hr⟩ := List.mem_flatten.1 hr
    constructor
    · intro heq
      rw [Record.key, Record.key, heq]
    · intro heq
      rw [h.canonical page hpage q hq, h.canonical page' hpage' r hr, heq]
  rw [List.filter_congr fun q hq => decide_eq_decide.2 (hhead q hq)]
  exact filter_eq_singleton_of_nodup h.distinct hr

end KeysInOrder

/-! ## Contents in order -/

/-- The keys are in order, and no page holds more records than the limit. -/
structure Contents.InOrder (limit : Nat) (c : Contents) : Prop where
  /-- The keys are in order. -/
  keys : KeysInOrder c.nextKey c.pages
  /-- No page is too long. -/
  room : ∀ page ∈ c.pages, page.length ≤ limit

namespace Contents.InOrder

variable {limit : Nat} {c : Contents}

theorem initial : Contents.initial.InOrder limit :=
  ⟨.initial, by simp [Contents.initial]⟩

theorem insert (h : c.InOrder limit) (hlimit : 0 < limit) (values : List String) :
    (c.insert limit values).InOrder limit where
  keys := h.keys.place limit values
  room := Contents.forall_mem_place h.room
    (fun page _ hroom => by rw [List.length_append]; exact hroom) hlimit

theorem deleteWhere (h : c.InOrder limit) (selects : Record → Bool) :
    (c.deleteWhere selects).InOrder limit where
  keys := h.keys.filter _
  room := by
    rw [Contents.deleteWhere, List.forall_mem_map]
    exact fun page hpage => Nat.le_trans (List.length_filter_le _ _) (h.room page hpage)

end Contents.InOrder

/-! ## The keys that were given out -/

/-- The tables that the step makes new, which are those it names up to the first that is not
declared. -/
def Step.emptied (db : Database) : Step → List String
  | .execute line =>
      match Statement.parse line with
      | .ok (.delete tables) => tables.takeWhile fun name => (db.table? name).isSome
      | _ => []
  | _ => []

/-- The keys that a table gave out since it was made or emptied, after one more step and its
answer. -/
def noteKey (db : Database) (name : String) (keys : List Nat) : Step × Answer → List Nat
  | (step, answer) =>
      if (step.emptied db).contains name then []
      else
        match step.insertion?, answer with
        | some (table, _), .ok (some (.inserted key)) =>
            if table = name then keys ++ [key] else keys
        | _, _ => keys

/-- The keys that a table gave out since it was made or emptied for the last time. -/
def givenKeys (db : Database) (name : String) (log : List (Step × Answer)) : List Nat :=
  log.foldl (noteKey db name) []

namespace Memory

variable {db : Database} {m : Memory}

theorem emptied_of_insertion? {step : Step} {insertion : String × List String}
    (h : step.insertion? = some insertion) : step.emptied db = [] := by
  cases step with
  | execute line =>
      rw [Step.insertion?] at h
      split at h
      · rename_i hparse
        rw [Step.emptied, hparse]
      · cases h
  | insert table values => rfl
  | reopen => cases h

/-- The tables that a deletion makes new. -/
theorem stateOf_deleteEach (names : List String) (m : Memory) (name : String) :
    stateOf (deleteEach db names m) name
      = if (names.takeWhile fun name => (db.table? name).isSome).contains name then .initial
        else m name := by
  induction names generalizing m with
  | nil => rfl
  | cons first rest ih =>
      cases ht : db.table? first with
      | none =>
          rw [deleteEach, delete, Database.table_of_table?_none ht, List.takeWhile_cons, ht]
          rfl
      | some t =>
          have hstep : deleteEach db (first :: rest) m
              = deleteEach db rest (Function.update m first .initial) := by
            rw [deleteEach, delete, Database.table_of_table? ht]
            rfl
          rw [hstep, ih, List.takeWhile_cons, ht]
          by_cases heq : name = first
          · simp [heq]
          · simp [heq]

/-- A deletion leaves the tables that it does not name. -/
theorem stateOf_deleteEach_of_not_mem {names : List String} {name : String} (h : name ∉ names)
    (m : Memory) : stateOf (deleteEach db names m) name = m name := by
  have hkept : ¬ ((names.takeWhile fun name =>
      (db.table? name).isSome).contains name = true) := fun hmem =>
    h ((List.takeWhile_sublist _).subset (List.contains_iff_mem.1 hmem))
  rw [stateOf_deleteEach, if_neg hkept]

/-- Apart from insertions, only making a table new changes its next key. -/
theorem nextKey_of_insertion?_none {step : Step} (h : step.insertion? = none) (m : Memory)
    (name : String) :
    (stateOf (Memory.step db step m) name).nextKey
      = if (step.emptied db).contains name then 1 else (m name).nextKey := by
  cases step with
  | execute line =>
      rw [Memory.step, Step.emptied]
      rw [Step.insertion?] at h
      cases hparse : Statement.parse line with
      | error failure => rfl
      | ok statement =>
          show (stateOf ((some <$> run db statement) m) name).nextKey = _
          rw [state_map]
          cases statement with
          | select fields tables text =>
              rw [stateOf_run_select]
              rfl
          | insert table values =>
              rw [hparse] at h
              cases h
          | delete tables =>
              rw [stateOf_run_delete, stateOf_deleteEach]
              simp only
              split <;> rfl
          | deleteWhere tables text =>
              have hkeeps : Keeps (Everywhere fun other c => other = name →
                  c.nextKey = (m name).nextKey) (run db (.deleteWhere tables text)) :=
                (asking_keeps _).bind fun condition =>
                  (deleteWhereEach_keeps (fun _ _ _ h => h) condition tables).bind fun _ => .pure _
              exact hkeeps m (fun other heq => by rw [heq]) name rfl
  | insert table values => cases h
  | reopen => rfl

/-- The keys that were given out and the next key fit together. -/
theorem noteKey_step (db : Database) (name : String) {n : Nat}
    (hnext : (m name).nextKey = n + 1) (step : Step) :
    ∃ n', noteKey db name (List.range' 1 n) (step, answerOf (Memory.step db step m))
        = List.range' 1 n' ∧
      (stateOf (Memory.step db step m) name).nextKey = n' + 1 := by
  cases hinsert : step.insertion? with
  | none =>
      rw [nextKey_of_insertion?_none hinsert]
      simp only [noteKey, hinsert]
      split
      · exact ⟨0, rfl, rfl⟩
      · exact ⟨n, rfl, hnext⟩
  | some insertion =>
      obtain ⟨table, values⟩ := insertion
      simp only [noteKey, emptied_of_insertion? hinsert, hinsert]
      rw [step_of_insertion? hinsert, answer_map, state_map, Memory.insert]
      cases htable : db.insertionTable table values with
      | error failure => exact ⟨n, rfl, hnext⟩
      | ok t =>
          show ∃ n', (if table = name then List.range' 1 n ++ [(m table).nextKey]
              else List.range' 1 n) = _ ∧
            (Function.update m table ((m table).insert db.schema.sheetLimit values) name).nextKey
              = n' + 1
          by_cases heq : table = name
          · subst heq
            refine ⟨n + 1, ?_, ?_⟩
            · rw [if_pos rfl, hnext, List.range'_1_concat, Nat.add_comm]
            · rw [Function.update_self, Contents.insert, hnext]
          · rw [if_neg heq, Function.update_of_ne (Ne.symm heq)]
            exact ⟨n, rfl, hnext⟩

/-- The keys that were given out are the numbers from one on. -/
theorem givenKeys_runSteps (db : Database) (name : String) {n : Nat}
    (hnext : (m name).nextKey = n + 1) (steps : List Step) :
    ∃ n', (steps.zip (runSteps (Memory.step db) steps m).1).foldl (noteKey db name)
        (List.range' 1 n) = List.range' 1 n' ∧
      ((runSteps (Memory.step db) steps m).2 name).nextKey = n' + 1 := by
  induction steps generalizing m n with
  | nil => exact ⟨n, rfl, hnext⟩
  | cons step rest ih =>
      obtain ⟨n', hkeys, hnext'⟩ := noteKey_step db name hnext step
      rw [runSteps_cons, List.zip_cons_cons, List.foldl_cons, hkeys]
      exact ih hnext'

end Memory

/-! ## Tables in order -/

/-- The sheets of the table have the pages, each sheet has room for no more records than the limit,
and the keys are in order below the next one. -/
structure Table.InOrder (t : Table) (limit : Nat) (files : FileTree) (next : Nat)
    (pages : List Sheet) : Prop where
  /-- The sheets are numbered from one, without a gap. -/
  numbers : t.sheetNumbers files = .ok (List.range' 1 pages.length)
  /-- There is a sheet. -/
  pages_ne_nil : pages ≠ []
  /-- Each sheet reads as its page, ends with a line feed and is not too long. -/
  sheet : ∀ i page, pages[i]? = some page → ∃ text,
    files.readText (t.sheetPath (i + 1)) = .ok text ∧ Sheet.decode t.columns text = .ok page ∧
      text.toList.getLast? = some '\n' ∧ page.length ≤ limit
  /-- The next key can be read. -/
  nextKey : t.nextKey files = .ok next
  /-- The keys are in order. -/
  keys : KeysInOrder next pages

theorem Table.Holds.inOrder {t : Table} {files : FileTree} {c : Contents} {limit : Nat}
    (hp : t.Proper) (hv : c.Valid t.columns.length) (h : t.Holds files c)
    (hkey : c.nextKey < Text.wordBound) (horder : c.InOrder limit) :
    t.InOrder limit files c.nextKey c.pages where
  numbers := sheetNumbers_eq h (hv.length_lt (Nat.le_of_lt hkey))
  pages_ne_nil := hv.pages_ne_nil
  sheet i page hpage := by
    have hmem := List.mem_of_getElem? hpage
    exact ⟨_, FileTree.readText_of_get? (h.sheet i page hpage),
      Sheet.decode_encode hp.header (hv.fits page hmem), Sheet.getLast?_encode _ _,
      horder.room page hmem⟩
  nextKey := nextKey_eq h hkey
  keys := horder.keys

namespace Database

variable {db : Database}

/-- Whatever steps a new database takes, its tables stay in order as long as the keys are words, and
the keys that a table gave out since it was made or emptied are the numbers from one up to its next
key. -/
theorem runSteps_inOrder (hvalid : db.schema.validate = .ok ()) {before start last : FileTree}
    (hempty : db.root.EmptyIn before)
    (hopen : openAt db.root db.schema db.joinMode before = .ok db start) {steps : List Step}
    {answers : List Answer} (hrun : runSteps db.step steps start = (answers, last))
    (hfits : ∀ a ∈ answers, Answer.keyFits a = true) {name : String} {t : Table}
    (ht : db.table? name = some t) :
    ∃ n pages, t.InOrder db.schema.sheetLimit last (n + 1) pages ∧
      givenKeys db name (steps.zip answers) = List.range' 1 n := by
  obtain ⟨start', hopen', hstart⟩ := open_tracks db hempty
  rw [hopen] at hopen'
  cases hopen'
  obtain ⟨hanswers, htracks⟩ := runSteps_tracks_of_fits hvalid steps hstart
    (by rw [hrun]; exact hfits)
  rw [hrun] at hanswers htracks
  have hlimit := Schema.sheetLimit_pos hvalid
  have horder : Memory.Everywhere (fun _ c => c.InOrder db.schema.sheetLimit)
      (runSteps (Memory.step db) steps Memory.initial).2 :=
    runSteps_keeps (Memory.step_keeps (fun _ => .initial)
      (fun _ _ values h => h.insert hlimit values) fun _ _ selects h => h.deleteWhere selects)
      steps fun _ => .initial
  obtain ⟨n, hgiven, hnext⟩ := Memory.givenKeys_runSteps db name (m := Memory.initial) (n := 0)
    rfl steps
  have hinOrder := (htracks.mirrors.shows.holds ht).inOrder (proper_of_table? hvalid ht)
    (htracks.mirrors.shows.valid ht) (htracks.words name) (horder name)
  rw [hnext] at hinOrder
  rw [← hanswers] at hgiven
  exact ⟨n, _, hinOrder, hgiven⟩

/-- The keys of the first table of the small database. -/
theorem sample_runSteps_inOrder : ∃ start last n pages,
    runSteps sample.step sampleSteps start = (sampleAnswers, last) ∧
      Table.InOrder ⟨"beer", sample.dir.entry "beer", ["beer_pk", "name", "style"]⟩ 2 last (n + 1)
        pages ∧
      givenKeys sample "beer" (sampleSteps.zip sampleAnswers) = List.range' 1 n := by
  obtain ⟨start, hopen, hstart⟩ := open_tracks sample (Path.emptyIn_empty "data")
  have hvalid : sample.schema.validate = .ok () := by decide +kernel
  obtain ⟨hanswers, -⟩ := runSteps_tracks hvalid sampleSteps hstart (by decide +kernel)
  have hmemory : (runSteps (Memory.step sample) sampleSteps Memory.initial).1 = sampleAnswers := by
    decide +kernel
  have hrun : runSteps sample.step sampleSteps start = (sampleAnswers, _) :=
    Prod.ext (hanswers.trans hmemory) rfl
  have hbeer : sample.table? "beer"
      = some ⟨"beer", sample.dir.entry "beer", ["beer_pk", "name", "style"]⟩ := by decide +kernel
  obtain ⟨n, pages, horder, hgiven⟩ := runSteps_inOrder hvalid (Path.emptyIn_empty "data") hopen
    hrun (by decide) hbeer
  exact ⟨start, _, n, pages, hrun, horder, hgiven⟩

end Database

end SheetStore
