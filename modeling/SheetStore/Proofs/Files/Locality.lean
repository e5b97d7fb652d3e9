import SheetStore.Proofs.Files.Failures

/-!
# Actions on some entries of a directory

An action is *local* to some entries of a directory (`Storage.Local`) if two things hold of it.

* It treats trees alike that agree on those entries and on everything below them: the answer is the
  same, and on whatever else the trees agreed they still agree (`FileTree.AgreeOn`).
* It changes nothing but those entries and what is below them (`FileTree.Confined`).  One exception
  is needed: the directory itself may be missing, and then an action that makes one of the entries
  makes the directory and those around it first.

That exception is all that two local actions on different entries share.  It does no harm, since an
entry that is not there is missing for the same reason before and after (`Confined.missing`).  So
two such actions can be exchanged (`Storage.Local.commute`).
-/

namespace SheetStore

/-! ## Below some entries of a directory -/

namespace Path

variable {dir p : Path} {names : List String}

/-- The path is one of the named entries of the directory or lies below it. -/
def Inside (dir : Path) (names : List String) (p : Path) : Prop :=
  ∃ name ∈ names, (dir.entry name).holds p = true

theorem inside_of_mem {name : String} (h : name ∈ names) : dir.Inside names (dir.entry name) :=
  ⟨name, h, holds_self _⟩

theorem Inside.entry (h : dir.Inside names p) (name : String) :
    dir.Inside names (p.entry name) := by
  obtain ⟨n, hn, hp⟩ := h
  exact ⟨n, hn, holds_trans hp (holds_entry p name)⟩

/-- Nothing below an entry lies around the directory. -/
theorem Inside.not_holds (h : dir.Inside names p) : p.holds dir = false := by
  obtain ⟨n, -, hp⟩ := h
  refine Bool.eq_false_iff.2 fun hdir => ?_
  have hself := holds_trans hp hdir
  rw [not_holds_parent] at hself
  cases hself

theorem Inside.not_of_disjoint {others : List String} (h : dir.Inside names p)
    (hdisjoint : ∀ name ∈ names, name ∉ others) : ¬ dir.Inside others p := by
  rintro ⟨other, hother, hp⟩
  obtain ⟨name, hname, hp'⟩ := h
  have hne : name ≠ other := by
    rintro rfl
    exact hdisjoint name hname hother
  rw [holds_sibling hne hp'] at hp
  cases hp

end Path

namespace FileTree

variable {dir p : Path} {names : List String} {seen : Path → Prop} {s t u s' t' : FileTree}

/-! ## Why something is missing -/

theorem missing_of_directory (h : s.get? dir = some .directory) (name : String) :
    s.missing (dir.entry name) = .notFound := by
  simp only [missing, h]

theorem missing_of_file {contents : ByteArray} (h : s.get? dir = some (.file contents))
    (name : String) : s.missing (dir.entry name) = .notADirectory := by
  simp only [missing, h]

theorem missing_of_none (h : s.get? dir = none) (name : String) :
    s.missing (dir.entry name) = s.missing dir := by
  simp only [missing, h]

/-- Why an entry is missing depends on what stands around it. -/
theorem missing_congr (h : ∀ p, p.holds dir = true → t.get? p = s.get? p) (name : String) :
    t.missing (dir.entry name) = s.missing (dir.entry name) := by
  induction dir generalizing name with
  | base => rfl
  | entry d n ih =>
      have hdir := h _ (Path.holds_self _)
      have hrest := ih (fun p hp => h p (Path.holds_trans hp (Path.holds_entry d n))) n
      cases hnode : s.get? (d.entry n) with
      | none => rw [missing_of_none hnode, missing_of_none (hdir.trans hnode), hrest]
      | some node =>
          cases node with
          | directory => rw [missing_of_directory hnode, missing_of_directory (hdir.trans hnode)]
          | file contents => rw [missing_of_file hnode, missing_of_file (hdir.trans hnode)]

/-- Where an entry is not found, no file stands around it. -/
theorem ne_file_of_missing {name : String} (h : s.missing (dir.entry name) = .notFound)
    (hp : p.holds dir = true) (contents : ByteArray) : s.get? p ≠ some (.file contents) := by
  induction dir generalizing name with
  | base text =>
      rw [Path.holds, beq_iff_eq] at hp
      rw [hp, get?_base]
      simp
  | entry d n ih =>
      cases hnode : s.get? (d.entry n) with
      | none =>
          rw [missing_of_none hnode] at h
          rw [Path.holds, Bool.or_eq_true, beq_iff_eq] at hp
          rcases hp with rfl | hp
          · rw [hnode]
            simp
          · exact ih h hp
      | some node =>
          cases node with
          | directory =>
              rw [get?_of_holds_directory hnode hp]
              simp
          | file contents =>
              rw [missing_of_file hnode] at h
              cases h

theorem createDirAll_entry_of_error {name : String} (h : s.get? (dir.entry name) = none)
    (hfails : s.createDirAll dir = .error .notADirectory) :
    s.createDirAll (dir.entry name) = .error .notADirectory := by
  simp only [createDirAll, h, hfails]

/-- Where an entry is missing, it can be made or it cannot, for the reason why it is missing. -/
theorem createDirAll_of_missing {name : String} (h : s.get? (dir.entry name) = none) :
    (s.missing (dir.entry name) = .notFound ∧ ∃ s', s.createDirAll (dir.entry name) = .ok s') ∨
      s.missing (dir.entry name) = .notADirectory ∧
        s.createDirAll (dir.entry name) = .error .notADirectory := by
  induction dir generalizing name with
  | base text => exact .inl ⟨rfl, _, createDirAll_entry (get?_base s text) h⟩
  | entry d n ih =>
      cases hnode : s.get? (d.entry n) with
      | none =>
          rw [missing_of_none hnode]
          rcases ih hnode with ⟨hmissing, made, hmade⟩ | ⟨hmissing, hfails⟩
          · exact .inl ⟨hmissing, _, createDirAll_entry_of_ok hmade h⟩
          · exact .inr ⟨hmissing, createDirAll_entry_of_error h hfails⟩
      | some node =>
          cases node with
          | directory =>
              exact .inl ⟨missing_of_directory hnode _, _, createDirAll_entry hnode h⟩
          | file contents =>
              exact .inr ⟨missing_of_file hnode _, by simp only [createDirAll, h, hnode]⟩

/-! ## Trees that agree -/

/-- The trees agree on some paths, and on why an entry of the directory is missing. -/
structure AgreeOn (dir : Path) (seen : Path → Prop) (s t : FileTree) : Prop where
  /-- The same stands at each of the paths. -/
  same : ∀ p, seen p → t.get? p = s.get? p
  /-- An entry that is missing is missing for the same reason. -/
  missing : ∀ name, t.missing (dir.entry name) = s.missing (dir.entry name)

namespace AgreeOn

theorem mono {other : Path → Prop} (h : AgreeOn dir seen s t) (hother : ∀ p, other p → seen p) :
    AgreeOn dir other s t :=
  ⟨fun p hp => h.same p (hother p hp), h.missing⟩

/-- Changes agree if they reach nothing around the directory and do the same to what was seen. -/
theorem of_view (h : AgreeOn dir seen s t)
    (haround : ∀ p, p.holds dir = true → s'.get? p = s.get? p)
    (haround' : ∀ p, p.holds dir = true → t'.get? p = t.get? p)
    (hview : ∀ p, seen p → t'.get? p = s'.get? p) : AgreeOn dir seen s' t' where
  same := hview
  missing name := by rw [missing_congr haround, missing_congr haround', h.missing]

variable (h : AgreeOn dir (dir.Inside names) s t)

include h

theorem missing_of_inside (hp : dir.Inside names p) : t.missing p = s.missing p := by
  induction p with
  | base => rfl
  | entry d n ih =>
      obtain ⟨name, hname, hp⟩ := hp
      rw [Path.holds, Bool.or_eq_true, beq_iff_eq] at hp
      rcases hp with heq | hp
      · rw [← heq, h.missing]
      · have hd : dir.Inside names d := ⟨name, hname, hp⟩
        have hsame := h.same d hd
        cases hnode : s.get? d with
        | none => rw [missing_of_none hnode, missing_of_none (hsame.trans hnode), ih hd]
        | some node =>
            cases node with
            | directory =>
                rw [missing_of_directory hnode, missing_of_directory (hsame.trans hnode)]
            | file contents => rw [missing_of_file hnode, missing_of_file (hsame.trans hnode)]

theorem read_eq (hp : dir.Inside names p) : t.read p = s.read p := by
  rw [read, read, h.same p hp, h.missing_of_inside hp]

theorem readText_eq (hp : dir.Inside names p) : t.readText p = s.readText p := by
  rw [readText, readText, h.read_eq hp]

end AgreeOn

/-! ## What is changed -/

/-- Only the named entries of the directory are changed, and what is below them.  A directory that
was missing around them may be there afterwards. -/
structure Confined (dir : Path) (names : List String) (s t : FileTree) : Prop where
  /-- Nothing changes elsewhere. -/
  outside : ∀ p, ¬ dir.Inside names p → p.holds dir = false → t.get? p = s.get? p
  /-- Around the entries nothing changes, or what was missing is made. -/
  around : (∀ p, p.holds dir = true → t.get? p = s.get? p) ∨
    names ≠ [] ∧ (∀ name, s.missing (dir.entry name) = .notFound) ∧ t.get? dir = some .directory

namespace Confined

theorem of_inside (h : ∀ p, ¬ dir.Inside names p → t.get? p = s.get? p) :
    Confined dir names s t where
  outside p hp _ := h p hp
  around := .inl fun p hp => h p fun hinside => by
    rw [hinside.not_holds] at hp
    cases hp

/-- Writing below an entry, or to it, reaches nothing else. -/
theorem of_write {d : Path} {n : String} {contents : ByteArray} (hd : dir.Inside names d)
    (h : s.write (d.entry n) contents = .ok t) : Confined dir names s t := by
  refine of_inside fun p hp => ?_
  rw [get?_of_write h, if_neg]
  rintro rfl
  exact hp (hd.entry n)

theorem refl (dir : Path) (names : List String) (s : FileTree) : Confined dir names s s :=
  of_inside fun _ _ => rfl

/-- An entry that is missing is missing for the same reason as before. -/
theorem missing (h : Confined dir names s t) (name : String) :
    t.missing (dir.entry name) = s.missing (dir.entry name) := by
  rcases h.around with hsame | ⟨-, hmissing, hdir⟩
  · exact missing_congr hsame name
  · rw [missing_of_directory hdir, hmissing]

theorem trans (hst : Confined dir names s t) (htu : Confined dir names t u) :
    Confined dir names s u where
  outside p hp hdir := (htu.outside p hp hdir).trans (hst.outside p hp hdir)
  around := by
    rcases htu.around with hsame | ⟨hne, hmissing, hdir⟩
    · refine hst.around.imp (fun h p hp => (hsame p hp).trans (h p hp)) fun h => ⟨h.1, h.2.1, ?_⟩
      rw [hsame dir (Path.holds_self dir), h.2.2]
    · exact .inr ⟨hne, fun name => by rw [← hst.missing, hmissing], hdir⟩

/-- A directory around the entries stays. -/
theorem get?_of_directory (h : Confined dir names s t) (hp : p.holds dir = true)
    (hdirectory : s.get? p = some .directory) : t.get? p = some .directory := by
  rcases h.around with hsame | ⟨-, -, hdir⟩
  · rw [hsame p hp, hdirectory]
  · exact get?_of_holds_directory hdir hp

/-- Around the entries nothing changes but what was missing. -/
theorem get?_around (h : Confined dir names s t) (hp : p.holds dir = true) :
    t.get? p = s.get? p ∨ names ≠ [] ∧ s.get? p = none ∧ t.get? p = some .directory := by
  rcases h.around with hsame | ⟨hne, hmissing, hdir⟩
  · exact .inl (hsame p hp)
  · have hmade := get?_of_holds_directory hdir hp
    cases hnode : s.get? p with
    | none => exact .inr ⟨hne, rfl, hmade⟩
    | some node =>
        cases node with
        | directory => exact .inl hmade
        | file contents => exact absurd hnode (ne_file_of_missing (hmissing "") hp contents)

/-- A change of other entries is not seen from the entries. -/
theorem agreeOn {others : List String} (h : Confined dir others s t)
    (hdisjoint : ∀ name ∈ names, name ∉ others) : AgreeOn dir (dir.Inside names) s t where
  same p hp := h.outside p (hp.not_of_disjoint hdisjoint) hp.not_holds
  missing := h.missing

end Confined

/-! ## Operations -/

/-- Both fail for the same cause, or both succeed with related results. -/
inductive SameOutcome (R : σ → τ → Prop) : Except ε σ → Except ε τ → Prop where
  /-- Both succeed. -/
  | ok {a : σ} {b : τ} (h : R a b) : SameOutcome R (.ok a) (.ok b)
  /-- Both fail. -/
  | error (e : ε) : SameOutcome R (.error e) (.error e)

theorem SameOutcome.of_ok {R : σ → τ → Prop} {x : Except ε σ} {y : Except ε τ} {a : σ}
    (h : SameOutcome R x y) (hx : x = .ok a) : ∃ b, y = .ok b ∧ R a b := by
  cases h with
  | ok h =>
      cases hx
      exact ⟨_, rfl, h⟩
  | error e => cases hx

theorem SameOutcome.of_error {R : σ → τ → Prop} {x : Except ε σ} {y : Except ε τ} {e : ε}
    (h : SameOutcome R x y) (hx : x = .error e) : y = .error e := by
  cases h with
  | ok h => cases hx
  | error e =>
      cases hx
      rfl

section Operations

variable {d : Path} {n : String} (hseen : ∀ p, dir.Inside names p → seen p)
  (h : AgreeOn dir seen s t)

include hseen h

theorem AgreeOn.inside : AgreeOn dir (dir.Inside names) s t := h.mono hseen

theorem AgreeOn.put {node : Node} (hd : dir.Inside names d) (hdir : s.get? d = some .directory)
    (hnode : node = .directory ∨ s.get? (d.entry n) ≠ some .directory) :
    AgreeOn dir seen (s.put d n node) (t.put d n node) := by
  have hentry := hd.entry n
  have hview := get?_put hdir hnode
  have hview' : ∀ p, (t.put d n node).get? p = if p = d.entry n then some node else t.get? p := by
    refine get?_put (by rw [h.same d (hseen d hd), hdir]) ?_
    rwa [h.same _ (hseen _ hentry)]
  have hne : ∀ p, p.holds dir = true → p ≠ d.entry n := by
    rintro p hp rfl
    rw [hentry.not_holds] at hp
    cases hp
  refine h.of_view (fun p hp => ?_) (fun p hp => ?_) fun p hp => ?_
  · rw [hview, if_neg (hne p hp)]
  · rw [hview', if_neg (hne p hp)]
  · rw [hview, hview', h.same p hp]

theorem sameOutcome_write (hd : dir.Inside names d) (contents : ByteArray) :
    SameOutcome (AgreeOn dir seen) (s.write (d.entry n) contents)
      (t.write (d.entry n) contents) := by
  have hin := h.inside hseen
  have hentry := hd.entry n
  simp only [write, isDirectory, hin.same _ hentry, hin.same d hd, hin.missing_of_inside hentry,
    decide_eq_true_eq]
  split
  · exact .error _
  · rename_i hfree
    split
    · rename_i hdir
      exact .ok (h.put hseen hd hdir (.inr hfree))
    · exact .error _

theorem sameOutcome_append (hd : dir.Inside names d) (more : ByteArray) :
    SameOutcome (AgreeOn dir seen) (s.append (d.entry n) more) (t.append (d.entry n) more) := by
  rw [append, append, (h.inside hseen).read_eq (hd.entry n)]
  cases s.read (d.entry n) with
  | error cause => exact .error cause
  | ok contents => exact sameOutcome_write hseen h hd _

theorem AgreeOn.drop (hp : dir.Inside names p) (hfree : s.get? p ≠ some .directory) :
    AgreeOn dir seen (s.drop p) (t.drop p) := by
  have hview := get?_drop hfree
  have hview' : ∀ q, (t.drop p).get? q = if q = p then none else t.get? q :=
    get?_drop (by rwa [h.same p (hseen p hp)])
  have hne : ∀ q, q.holds dir = true → q ≠ p := by
    rintro q hq rfl
    rw [hp.not_holds] at hq
    cases hq
  refine h.of_view (fun q hq => ?_) (fun q hq => ?_) fun q hq => ?_
  · rw [hview, if_neg (hne q hq)]
  · rw [hview', if_neg (hne q hq)]
  · rw [hview, hview', h.same q hq]

theorem sameOutcome_rename {m : String} (hd : dir.Inside names d) :
    SameOutcome (AgreeOn dir seen) (s.rename (d.entry n) (d.entry m))
      (t.rename (d.entry n) (d.entry m)) := by
  rw [rename, rename, (h.inside hseen).read_eq (hd.entry n)]
  cases hread : s.read (d.entry n) with
  | error cause => exact .error cause
  | ok contents =>
      have hwrite := sameOutcome_write (n := m) hseen h hd contents
      cases hs : s.write (d.entry m) contents with
      | error cause =>
          simp only [hs, hwrite.of_error hs]
          exact .error cause
      | ok s' =>
          obtain ⟨t', ht, hagree⟩ := hwrite.of_ok hs
          simp only [hs, ht]
          refine .ok ?_
          split
          · exact hagree
          · rename_i hne
            refine hagree.drop hseen (hd.entry n) ?_
            rw [get?_of_write hs, if_neg hne, get?_of_read hread]
            simp

theorem sameOutcome_createDirAll (hn : n ∈ names) :
    SameOutcome (AgreeOn dir seen) (s.createDirAll (dir.entry n))
      (t.createDirAll (dir.entry n)) := by
  have hsame := (h.inside hseen).same _ (Path.inside_of_mem hn)
  cases hnode : s.get? (dir.entry n) with
  | some node =>
      cases node with
      | directory =>
          rw [createDirAll_of_directory hnode, createDirAll_of_directory (hsame.trans hnode)]
          exact .ok h
      | file contents =>
          simp only [createDirAll, hnode, hsame.trans hnode]
          exact .error _
  | none =>
      -- both can be made or neither, since the entry is missing for the same reason
      have hmissing := h.missing n
      rcases createDirAll_of_missing hnode with ⟨hs, s', hmade⟩ | ⟨hs, hfails⟩ <;>
        rcases createDirAll_of_missing (hsame.trans hnode) with ⟨ht, t', hmade'⟩ | ⟨ht, hfails'⟩
      · rw [hmade, hmade']
        refine .ok ⟨fun p hp => ?_, fun name => ?_⟩
        · rw [get?_of_createDirAll hmade, get?_of_createDirAll hmade', h.same p hp]
        · rw [missing_of_directory (get?_parent (get?_createDirAll_self hmade)),
            missing_of_directory (get?_parent (get?_createDirAll_self hmade'))]
      · cases hs.symm.trans (hmissing.symm.trans ht)
      · cases hs.symm.trans (hmissing.symm.trans ht)
      · rw [hfails, hfails']
        exact .error _

theorem sameOutcome_removeDirAll (hn : n ∈ names) :
    SameOutcome (AgreeOn dir seen) (s.removeDirAll (dir.entry n))
      (t.removeDirAll (dir.entry n)) := by
  have hsame := (h.inside hseen).same _ (Path.inside_of_mem hn)
  rw [removeDirAll, removeDirAll, hsame, h.missing]
  split
  · have hne : ∀ p, p.holds dir = true → ¬ (dir.entry n).holds p = true := fun p hp hentry => by
      rw [Path.Inside.not_holds ⟨n, hn, hentry⟩] at hp
      cases hp
    refine .ok (h.of_view (fun p hp => ?_) (fun p hp => ?_) fun p hp => ?_)
    · rw [get?_dropAll_of_entry, if_neg (hne p hp)]
    · rw [get?_dropAll_of_entry, if_neg (hne p hp)]
    · rw [get?_dropAll_of_entry, get?_dropAll_of_entry, h.same p hp]
  · exact .error _
  · exact .error _

end Operations

end FileTree

/-! ## Local actions -/

namespace Storage

open FileTree

/-- The action works on the named entries of the directory alone. -/
structure Local (dir : Path) (names : List String) (x : Storage α) : Prop where
  /-- Trees that agree on the entries are treated alike. -/
  agrees : ∀ seen, (∀ p, dir.Inside names p → seen p) →
    Refines (AgreeOn dir seen) (AgreeOn dir seen) x x
  /-- Nothing but the entries is changed. -/
  confined : ∀ s, Confined dir names s (stateOf (x s))

namespace Local

variable {dir d : Path} {names : List String} {x : Storage α} {n m : String}

theorem pure (a : α) : Local dir names (pure a : Storage α) where
  agrees _ _ := .pure a
  confined s := .refl dir names s

theorem bind {f : α → Storage β} (hx : Local dir names x) (hf : ∀ a, Local dir names (f a)) :
    Local dir names (x >>= f) where
  agrees seen hseen :=
    (hx.agrees seen hseen).bind (fun _ _ h => h) fun a => (hf a).agrees seen hseen
  confined s := by
    cases hanswer : answerOf (x s) with
    | ok a =>
        rw [bind_of_ok (eq_ok_of_answerOf hanswer)]
        exact (hx.confined s).trans ((hf a).confined _)
    | error failure =>
        rw [bind_of_error (eq_error_of_answerOf hanswer)]
        exact hx.confined s

/-- A question is local if its answer depends on the entries alone. -/
theorem reading {question : FileTree → Except Failure α}
    (h : ∀ s t, AgreeOn dir (dir.Inside names) s t → question t = question s) :
    Local dir names (reading question) where
  agrees seen hseen s t hst := by
    cases hs : question s with
    | ok a =>
        rw [reading_of_ok hs, reading_of_ok ((h s t (hst.mono hseen)).trans hs)]
        exact ⟨rfl, hst⟩
    | error failure =>
        rw [reading_of_error hs, reading_of_error ((h s t (hst.mono hseen)).trans hs)]
        exact ⟨rfl, hst⟩
  confined s := reading_keeps question s (.refl dir names s)

/-- A file operation is local if it has the same outcome on trees that agree. -/
theorem change {path : Path} {operation : FileTree → Except FileError FileTree}
    (hagrees : ∀ seen, (∀ p, dir.Inside names p → seen p) → ∀ s t, AgreeOn dir seen s t →
      SameOutcome (AgreeOn dir seen) (operation s) (operation t))
    (hconfined : ∀ s s', operation s = .ok s' → Confined dir names s s') :
    Local dir names (change path operation) where
  agrees seen hseen s t hst := by
    have houtcome := hagrees seen hseen s t hst
    cases hs : operation s with
    | ok s' =>
        obtain ⟨t', ht, h⟩ := houtcome.of_ok hs
        rw [change_of_ok hs, change_of_ok ht]
        exact ⟨rfl, h⟩
    | error cause =>
        rw [change_of_error hs, change_of_error (houtcome.of_error hs)]
        exact ⟨rfl, hst⟩
  confined s := by
    cases hs : operation s with
    | ok s' =>
        rw [change_of_ok hs]
        exact hconfined s s' hs
    | error cause =>
        rw [change_of_error hs]
        exact .refl dir names s

/-! ### File operations -/

section Files

variable (hd : dir.Inside names d)

include hd

theorem write (path : Path) (n : String) (contents : ByteArray) :
    Local dir names (Storage.change path (·.write (d.entry n) contents)) :=
  change (fun _ hseen _ _ h => sameOutcome_write hseen h hd contents) fun _ _ hs =>
    .of_write hd hs

theorem append (path : Path) (n : String) (more : ByteArray) :
    Local dir names (Storage.change path (·.append (d.entry n) more)) := by
  refine change (fun seen hseen s t h => sameOutcome_append hseen h hd more) fun s s' hs => ?_
  rw [FileTree.append] at hs
  split at hs
  · cases hs
  · exact .of_write hd hs

theorem rename (path : Path) (n m : String) :
    Local dir names (Storage.change path (·.rename (d.entry n) (d.entry m))) := by
  refine change (fun seen hseen s t h => sameOutcome_rename hseen h hd) fun s s' hs => ?_
  obtain ⟨contents, -, hview⟩ := get?_of_rename hs
  refine .of_inside fun p hp => ?_
  have hne : ∀ name, p ≠ d.entry name := by
    rintro name rfl
    exact hp (hd.entry name)
  rw [hview, if_neg (hne m), if_neg (hne n)]

theorem replaceText (n text : String) : Local dir names (replaceText (d.entry n) text) :=
  (write hd _ _ _).bind fun _ => rename hd _ _ _

theorem ensureText (n text : String) : Local dir names (ensureText (d.entry n) text) := by
  have heq : Storage.ensureText (d.entry n) text = (do
      let there ← Storage.reading fun files => .ok (files.contains (d.entry n))
      if !there then Storage.replaceText (d.entry n) text) := rfl
  rw [heq]
  refine bind (reading fun s t h => ?_) fun there => ?_
  · rw [contains, contains, h.same _ (hd.entry n)]
  · split
    · exact replaceText hd n text
    · exact pure ()

end Files

section Directories

variable (hn : n ∈ names)

include hn

theorem createDirAll (path : Path) :
    Local dir names (Storage.change path (·.createDirAll (dir.entry n))) := by
  refine change (fun seen hseen s t h => sameOutcome_createDirAll hseen h hn) fun s s' hs => ?_
  have hview := get?_of_createDirAll hs
  cases hnode : s.get? (dir.entry n) with
  | some node =>
      cases node with
      | directory =>
          rw [createDirAll_of_directory hnode] at hs
          cases hs
          exact .refl dir names s
      | file contents =>
          simp only [FileTree.createDirAll, hnode] at hs
          cases hs
  | none =>
      rcases createDirAll_of_missing hnode with ⟨hmissing, -⟩ | ⟨-, hfails⟩
      · constructor
        · intro p hp hdir
          have hentry : p.holds (dir.entry n) = false := by
            rw [Path.holds, hdir, Bool.or_false, beq_eq_false_iff_ne]
            rintro rfl
            exact hp (Path.inside_of_mem hn)
          rw [hview, hentry, if_neg Bool.false_ne_true]
        · refine .inr ⟨List.ne_nil_of_mem hn, fun name => hmissing, ?_⟩
          rw [hview, if_pos (Path.holds_entry dir n)]
      · cases hs.symm.trans hfails

/-- What is to be removed may be missing. -/
theorem removeDirAll (path : Path) : Local dir names (Storage.change path fun files =>
    match files.removeDirAll (dir.entry n) with
    | .error .notFound => .ok files
    | result => result) := by
  refine change (fun seen hseen s t h => ?_) fun s s' hs => ?_
  · have houtcome := sameOutcome_removeDirAll hseen h hn
    cases hs : s.removeDirAll (dir.entry n) with
    | ok s' =>
        obtain ⟨t', ht, hagree⟩ := houtcome.of_ok hs
        rw [ht]
        exact .ok hagree
    | error cause =>
        rw [houtcome.of_error hs]
        cases cause with
        | notFound => exact .ok h
        | _ => exact .error _
  · split at hs
    · cases hs
      exact .refl dir names s
    · rw [FileTree.removeDirAll] at hs
      split at hs
      · cases hs
        refine .of_inside fun p hp => ?_
        rw [get?_dropAll_of_entry, if_neg]
        exact fun hentry => hp ⟨n, hn, hentry⟩
      · cases hs
      · cases hs

end Directories

/-! ### Different entries -/

variable {y : Storage β} {others : List String}

/-- What was seen from some entries is seen after a local action on others. -/
theorem answer_eq (hx : Local dir names x) (hy : Local dir others y)
    (hdisjoint : ∀ name ∈ names, name ∉ others) (s : FileTree) :
    answerOf (x (stateOf (y s))) = answerOf (x s) ∧
      ∀ p, dir.Inside names p → (stateOf (x (stateOf (y s)))).get? p = (stateOf (x s)).get? p := by
  obtain ⟨hanswer, hstate⟩ := hx.agrees _ (fun _ hp => hp) s _ ((hy.confined s).agreeOn hdisjoint)
  exact ⟨hanswer.symm, hstate.same⟩

/-- If a local action leaves what is around its entries, then one on other entries does there what it
does without it. -/
theorem get?_around_eq (hx : Local dir names x) (hy : Local dir others y)
    (hdisjoint : ∀ name ∈ others, name ∉ names) {s : FileTree}
    (hsame : ∀ p, p.holds dir = true → (stateOf (x s)).get? p = s.get? p) {p : Path}
    (hp : p.holds dir = true) :
    (stateOf (y (stateOf (x s)))).get? p = (stateOf (y s)).get? p := by
  have hagree : AgreeOn dir (fun q => dir.Inside others q ∨ q.holds dir = true) s
      (stateOf (x s)) := by
    refine ⟨fun q hq => ?_, (hx.confined s).missing⟩
    rcases hq with hq | hq
    · exact ((hx.confined s).agreeOn hdisjoint).same q hq
    · exact hsame q hq
  exact ((hy.agrees _ (fun _ hq => .inl hq) s _ hagree).2).same p (.inr hp)

/-- Around the entries, local actions on different entries leave the same in either order. -/
theorem get?_around_comm (hx : Local dir names x) (hy : Local dir others y)
    (hdisjoint : ∀ name ∈ names, name ∉ others) (s : FileTree) {p : Path}
    (hp : p.holds dir = true) :
    (stateOf (y (stateOf (x s)))).get? p = (stateOf (x (stateOf (y s)))).get? p := by
  have hback : ∀ name ∈ others, name ∉ names := fun name ho hn => hdisjoint name hn ho
  rcases (hx.confined s).around with hxs | ⟨-, -, hxs⟩ <;>
    rcases (hy.confined s).around with hys | ⟨-, -, hys⟩
  · rw [get?_around_eq hx hy hback hxs hp, hys p hp, get?_around_eq hy hx hdisjoint hys hp,
      hxs p hp]
  · have hmade := get?_of_holds_directory hys hp
    rw [get?_around_eq hx hy hback hxs hp, hmade, (hx.confined _).get?_of_directory hp hmade]
  · have hmade := get?_of_holds_directory hxs hp
    rw [get?_around_eq hy hx hdisjoint hys hp, hmade, (hy.confined _).get?_of_directory hp hmade]
  · rw [(hy.confined _).get?_of_directory hp (get?_of_holds_directory hxs hp),
      (hx.confined _).get?_of_directory hp (get?_of_holds_directory hys hp)]

/-- Local actions on different entries can be exchanged. -/
theorem commute (hx : Local dir names x) (hy : Local dir others y)
    (hdisjoint : ∀ name ∈ names, name ∉ others) (s : FileTree) :
    answerOf (x (stateOf (y s))) = answerOf (x s) ∧
      answerOf (y (stateOf (x s))) = answerOf (y s) ∧
      stateOf (y (stateOf (x s))) = stateOf (x (stateOf (y s))) := by
  have hback : ∀ name ∈ others, name ∉ names := fun name ho hn => hdisjoint name hn ho
  obtain ⟨hanswer, hinside⟩ := answer_eq hx hy hdisjoint s
  obtain ⟨hanswer', hinside'⟩ := answer_eq hy hx hback s
  refine ⟨hanswer, hanswer', ext_get? fun p => ?_⟩
  by_cases hp : dir.Inside names p
  · rw [hinside p hp,
      (hy.confined _).outside p (hp.not_of_disjoint hdisjoint) hp.not_holds]
  · by_cases hp' : dir.Inside others p
    · rw [hinside' p hp', (hx.confined _).outside p hp hp'.not_holds]
    · cases haround : p.holds dir with
      | true => exact get?_around_comm hx hy hdisjoint s haround
      | false =>
          rw [(hy.confined _).outside p hp' haround, (hx.confined _).outside p hp haround,
            (hx.confined _).outside p hp haround, (hy.confined _).outside p hp' haround]

end Local

end Storage

end SheetStore
