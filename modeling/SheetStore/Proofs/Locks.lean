import Mathlib.Data.List.Induction
import Mathlib.Data.List.Pairwise
import SheetStore.Locks

/-!
# The locks that are taken

Locks are taken in ascending order of the tables, each once (`pairwise_lockOrder`), or the least
table that is not known is the failure and nothing is taken (`lockPlan_error`).

In the course of some steps guards are taken and dropped.  A guard is *kept* if it was taken and no
later step dropped the guards of its owner (`Kept`).  As long as no step waits, the locks that are
taken are those of the guards that are kept, and no two of these have a lock in common
(`Locks.Tidy`).  Without the second half the first would not last, because dropping a guard releases
its locks without a look at the other guards.  So a table is locked exactly while a guard that lists
it is kept (`Locks.after_exact`).
-/

namespace SheetStore

/-! ## The order of the locks -/

section Order

variable {known : String → Bool} {tables order : List String} {table : String} {failure : Failure}

@[simp]
theorem mem_lockOrder : table ∈ lockOrder tables ↔ table ∈ tables := by
  simp [lockOrder]

/-- The tables of a statement are locked in ascending order, each once. -/
theorem pairwise_lockOrder (tables : List String) : (lockOrder tables).Pairwise (· < ·) := by
  have hordered : (lockOrder tables).Pairwise (compare · · = .lt) := Std.ExtTreeSet.ordered_toList
  exact hordered.imp fun h => compareOfLessAndEq_eq_lt.1 h

theorem nodup_lockOrder (tables : List String) : (lockOrder tables).Nodup := by
  refine (pairwise_lockOrder tables).imp ?_
  rintro a _ hlt rfl
  exact String.lt_irrefl a hlt

/-- Tables are locked if all of them are known. -/
theorem lockPlan_eq_ok_iff : lockPlan known tables = .ok order ↔
    (∀ table ∈ tables, known table = true) ∧ order = lockOrder tables := by
  have hfind : (lockOrder tables).find? (!known ·) = none ↔
      ∀ table ∈ tables, known table = true := by
    simp
  rw [lockPlan]
  split
  · rename_i table hsome
    rw [← hfind, hsome]
    simp
  · rename_i hnone
    rw [iff_true_intro (hfind.1 hnone), true_and, Except.ok.injEq, eq_comm]

/-- The least table that is not known is the failure. -/
theorem lockPlan_error (h : lockPlan known tables = .error failure) :
    ∃ table, failure = .unknownTable table ∧ table ∈ tables ∧ known table = false ∧
      ∀ other ∈ tables, known other = false → table ≤ other := by
  rw [lockPlan] at h
  split at h
  · rename_i table hfind
    cases h
    obtain ⟨hunknown, before, after, horder, hbefore⟩ := List.find?_eq_some_iff_append.1 hfind
    refine ⟨table, rfl, mem_lockOrder.1 (List.mem_of_find?_eq_some hfind), by simpa using hunknown,
      fun other hother hknown => ?_⟩
    rw [← mem_lockOrder, horder, List.mem_append, List.mem_cons] at hother
    have hsorted := pairwise_lockOrder tables
    rw [horder, List.pairwise_append, List.pairwise_cons] at hsorted
    rcases hother with hother | rfl | hother
    · exact absurd (hbefore other hother) (by simp [hknown])
    · exact String.le_refl other
    · exact String.not_lt.1 (String.lt_asymm (hsorted.2.1.1 other hother))
  · cases h

end Order

/-! ## Steps -/

/-- Something that is done with locks. -/
inductive LockStep where
  /-- A guard is taken on the tables. -/
  | lock (owner : String) (tables : List String)
  /-- The guards of an owner are dropped. -/
  | unlock (owner : String)
  /-- It is asked whether the table is locked. -/
  | isLocked (table : String)
deriving DecidableEq, Repr

/-- The tables whose locks a step asks for. -/
def LockStep.wanted : LockStep → List String
  | .lock _ tables => tables
  | .unlock _ => []
  | .isLocked _ => []

theorem LockStep.exists_of_mem_wanted {step : LockStep} {table : String}
    (h : table ∈ step.wanted) : ∃ owner names, step = .lock owner names ∧ table ∈ names := by
  cases step with
  | lock owner names => exact ⟨owner, names, rfl, h⟩
  | unlock owner => cases h
  | isLocked asked => cases h

/-- No table is listed by both guards. -/
def Guard.Apart (guard other : Guard) : Prop := ∀ table ∈ guard.tables, table ∉ other.tables

instance : Std.Symm Guard.Apart where
  symm _ _ hapart table hother hguard := hapart table hguard hother

namespace Locks

/-- The locks after a step.  A guard that cannot be taken leaves them as they are. -/
def next (m : Locks) : LockStep → Locks
  | .lock owner tables =>
      match m.lock owner tables with
      | .ok (_, m') => m'
      | .error _ => m
  | .unlock owner => m.unlock owner
  | .isLocked _ => m

/-- The locks on these tables after some steps from where none is taken. -/
def after (tables : List String) (steps : List LockStep) : Locks :=
  steps.foldl next { tables := tables }

/-- The guard was taken in the course of the steps, and its owner has dropped no guards since. -/
def Kept (tables : List String) (steps : List LockStep) (guard : Guard) : Prop :=
  ∃ earlier names later, steps = earlier ++ .lock guard.owner names :: later ∧
    (∃ m, (after tables earlier).lock guard.owner names = .ok (guard, m)) ∧
    .unlock guard.owner ∉ later

/-- No step asks for a lock while a guard that lists the table is kept. -/
def NoneWaits (tables : List String) (steps : List LockStep) : Prop :=
  ∀ earlier owner names later, steps = earlier ++ .lock owner names :: later →
    ∀ guard, Kept tables earlier guard → ∀ table ∈ names, table ∉ guard.tables

variable {m : Locks} {tables names : List String} {steps : List LockStep} {step : LockStep}
  {guard : Guard}

theorem after_concat (tables : List String) (steps : List LockStep) (step : LockStep) :
    after tables (steps ++ [step]) = (after tables steps).next step := by
  rw [after, List.foldl_append]
  rfl

/-! ## A step -/

/-- All that can come of asking for a guard. -/
theorem lock_cases (m : Locks) (owner : String) (names : List String) :
    (∀ table ∈ names, table ∈ m.tables) ∧
        m.lock owner names
          = .ok (⟨owner, lockOrder names⟩, m.take ⟨owner, lockOrder names⟩) ∨
      ∃ table, m.lock owner names = .error (.unknownTable table) ∧ table ∈ names ∧
        table ∉ m.tables ∧ ∀ other ∈ names, other ∉ m.tables → table ≤ other := by
  rw [lock]
  cases hplan : lockPlan m.tables.contains names with
  | ok order =>
      obtain ⟨hknown, rfl⟩ := lockPlan_eq_ok_iff.1 hplan
      exact .inl ⟨fun table htable => List.contains_iff_mem.1 (hknown table htable), rfl⟩
  | error failure =>
      obtain ⟨table, rfl, hmem, hunknown, hleast⟩ := lockPlan_error hplan
      simp only [List.contains_eq_mem, decide_eq_false_iff_not] at hunknown hleast
      exact .inr ⟨table, rfl, hmem, hunknown, hleast⟩

@[simp]
theorem tables_next (m : Locks) (step : LockStep) : (m.next step).tables = m.tables := by
  cases step with
  | lock owner names =>
      rcases lock_cases m owner names with ⟨-, hlock⟩ | ⟨table, hlock, -⟩
      · rw [next, hlock]
        rfl
      · rw [next, hlock]
  | unlock owner => rfl
  | isLocked table => rfl

/-- A guard is there after a step if it was there and is not dropped, or is the one that the step
takes. -/
theorem mem_guards_next : guard ∈ (m.next step).guards ↔
    (guard ∈ m.guards ∧ step ≠ .unlock guard.owner) ∨
      ∃ names, step = .lock guard.owner names ∧
        ∃ m', m.lock guard.owner names = .ok (guard, m') := by
  obtain ⟨keeper, kept⟩ := guard
  cases step with
  | lock owner names =>
      rcases lock_cases m owner names with ⟨-, hlock⟩ | ⟨table, hlock, -⟩
      · rw [next, hlock]
        constructor
        · rintro (_ | ⟨_, hmem⟩)
          · exact .inr ⟨names, rfl, _, hlock⟩
          · exact .inl ⟨hmem, by simp⟩
        · rintro (⟨hmem, -⟩ | ⟨_, heq, _, hlock'⟩)
          · exact List.mem_cons_of_mem _ hmem
          · cases heq
            rw [hlock] at hlock'
            cases hlock'
            exact List.mem_cons_self
      · rw [next, hlock]
        refine ⟨fun hmem => .inl ⟨hmem, by simp⟩, ?_⟩
        rintro (⟨hmem, -⟩ | ⟨_, heq, _, hlock'⟩)
        · exact hmem
        · cases heq
          rw [hlock] at hlock'
          cases hlock'
  | unlock owner => simp [next, unlock, @eq_comm _ owner]
  | isLocked table => simp [next]

/-! ## Guards and the steps that led to them -/

theorem of_concat_eq_append_cons {earlier later : List LockStep} {last : LockStep}
    (h : steps ++ [last] = earlier ++ step :: later) :
    (steps = earlier ∧ last = step) ∨
      ∃ between, steps = earlier ++ step :: between ∧ later = between ++ [last] := by
  rcases List.eq_nil_or_concat later with rfl | ⟨between, other, rfl⟩
  · obtain ⟨hsteps, hlast⟩ := List.append_inj' h rfl
    exact .inl ⟨hsteps, List.singleton_inj.1 hlast⟩
  · rw [List.concat_eq_append, ← List.cons_append, ← List.append_assoc] at h
    obtain ⟨hsteps, hlast⟩ := List.append_inj' h rfl
    obtain rfl := List.singleton_inj.1 hlast
    exact .inr ⟨between, hsteps, List.concat_eq_append⟩

/-- A guard is kept after a step if it was kept and is not dropped, or is the one that the step
takes. -/
theorem kept_concat_iff : Kept tables (steps ++ [step]) guard ↔
    (Kept tables steps guard ∧ step ≠ .unlock guard.owner) ∨
      ∃ names, step = .lock guard.owner names ∧
        ∃ m, (after tables steps).lock guard.owner names = .ok (guard, m) := by
  constructor
  · rintro ⟨earlier, names, later, hsteps, htaken, hkept⟩
    rcases of_concat_eq_append_cons hsteps with ⟨rfl, hstep⟩ | ⟨between, rfl, rfl⟩
    · exact .inr ⟨names, hstep, htaken⟩
    · rw [List.mem_append, List.mem_singleton, not_or] at hkept
      exact .inl ⟨⟨earlier, names, between, rfl, htaken, hkept.1⟩, Ne.symm hkept.2⟩
  · rintro (⟨⟨earlier, names, later, rfl, htaken, hkept⟩, hne⟩ | ⟨names, rfl, htaken⟩)
    · refine ⟨earlier, names, later ++ [step], by simp, htaken, ?_⟩
      rw [List.mem_append, List.mem_singleton, not_or]
      exact ⟨hkept, Ne.symm hne⟩
    · exact ⟨steps, names, [], rfl, htaken, List.not_mem_nil⟩

/-- The guards are those that are kept. -/
theorem mem_guards_after : guard ∈ (after tables steps).guards ↔ Kept tables steps guard := by
  induction steps using List.reverseRecOn with
  | nil =>
      refine ⟨fun h => absurd h List.not_mem_nil, ?_⟩
      rintro ⟨earlier, names, later, hsteps, -⟩
      simp at hsteps
  | append_singleton steps step ih => rw [after_concat, mem_guards_next, kept_concat_iff, ih]

/-! ## Locks and guards -/

/-- The locks that are taken are those of the guards, each of one guard. -/
structure Tidy (m : Locks) : Prop where
  /-- The guards list tables that are there. -/
  known : ∀ guard ∈ m.guards, ∀ table ∈ guard.tables, table ∈ m.tables
  /-- A lock is taken if a guard lists its table. -/
  taken : ∀ table, table ∈ m.taken ↔ ∃ guard ∈ m.guards, table ∈ guard.tables
  /-- No table is listed by two guards. -/
  apart : m.guards.Pairwise Guard.Apart

theorem tidy_start (tables : List String) : Tidy { tables := tables } where
  known _ h := by cases h
  taken _ := by simp
  apart := .nil

namespace Tidy

theorem isLocked_iff (h : m.Tidy) (table : String) :
    m.isLocked table = true ↔ ∃ guard ∈ m.guards, table ∈ guard.tables := by
  rw [isLocked, Bool.and_eq_true, List.contains_iff_mem, List.contains_iff_mem, h.taken,
    and_iff_right_of_imp]
  rintro ⟨guard, hguard, htable⟩
  exact h.known guard hguard table htable

/-- A guard may be taken on tables that no other guard lists. -/
theorem take (h : m.Tidy) (hknown : ∀ table ∈ guard.tables, table ∈ m.tables)
    (hfree : ∀ other ∈ m.guards, guard.Apart other) :
    (m.take guard).Tidy where
  known := List.forall_mem_cons.2 ⟨hknown, h.known⟩
  taken table := by simp [Locks.take, h.taken]
  apart := .cons hfree h.apart

/-- The locks of the guards that are dropped are not those of the guards that stay. -/
theorem unlock (h : m.Tidy) (owner : String) : (m.unlock owner).Tidy where
  known guard hguard := h.known guard (List.mem_filter.1 hguard).1
  taken table := by
    simp only [Locks.unlock, List.mem_filter, Bool.not_eq_true', List.any_eq_false,
      List.contains_eq_mem, decide_eq_true_eq, beq_iff_eq, bne_iff_ne, h.taken]
    constructor
    · rintro ⟨⟨guard, hguard, htable⟩, hdropped⟩
      exact ⟨guard, ⟨hguard, fun howner => hdropped guard ⟨hguard, howner⟩ htable⟩, htable⟩
    · rintro ⟨guard, ⟨hguard, howner⟩, htable⟩
      refine ⟨⟨guard, hguard, htable⟩, fun other ⟨hother, hdropped⟩ => ?_⟩
      exact h.apart.forall hguard hother (fun heq => howner (heq ▸ hdropped)) table htable
  apart := h.apart.filter _

theorem next (h : m.Tidy)
    (hfree : ∀ guard ∈ m.guards, ∀ table ∈ step.wanted, table ∉ guard.tables) :
    (m.next step).Tidy := by
  cases step with
  | lock owner names =>
      rcases lock_cases m owner names with ⟨hknown, hlock⟩ | ⟨table, hlock, -⟩
      · rw [Locks.next, hlock]
        exact h.take (fun table htable => hknown table (mem_lockOrder.1 htable))
          fun guard hguard table htable => hfree guard hguard table (mem_lockOrder.1 htable)
      · rw [Locks.next, hlock]
        exact h
  | unlock owner => exact h.unlock owner
  | isLocked table => exact h

end Tidy

/-- No step waits if each finds the locks it asks for. -/
theorem noneWaits_iff : NoneWaits tables steps ↔
    ∀ i < steps.length, ∀ guard ∈ (after tables (steps.take i)).guards,
      ∀ table ∈ steps[i]?.elim [] LockStep.wanted, table ∉ guard.tables := by
  constructor
  · intro h i hi guard hguard table htable
    rw [List.getElem?_eq_getElem hi, Option.elim_some] at htable
    obtain ⟨owner, names, hstep, hname⟩ := LockStep.exists_of_mem_wanted htable
    have hsplit : steps = steps.take i ++ .lock owner names :: steps.drop (i + 1) := by
      rw [← hstep, ← List.drop_eq_getElem_cons hi, List.take_append_drop]
    exact h _ owner names _ hsplit guard (mem_guards_after.1 hguard) table hname
  · rintro h earlier owner names later rfl guard hkept table htable
    have hlast := h earlier.length (by simp) guard
    rw [List.take_left' rfl, List.getElem?_append_right (Nat.le_refl _), Nat.sub_self] at hlast
    exact hlast (mem_guards_after.2 hkept) table htable

instance (tables : List String) (steps : List LockStep) : Decidable (NoneWaits tables steps) :=
  decidable_of_iff' _ noneWaits_iff

theorem NoneWaits.of_append {later : List LockStep} (h : NoneWaits tables (steps ++ later)) :
    NoneWaits tables steps := by
  rintro earlier owner names between rfl
  exact h earlier owner names (between ++ later) (by simp)

/-- As long as no step waits, the locks are tidy. -/
theorem NoneWaits.tidy (h : NoneWaits tables steps) : (after tables steps).Tidy := by
  induction steps using List.reverseRecOn with
  | nil => exact tidy_start tables
  | append_singleton steps step ih =>
      have hfree := noneWaits_iff.1 h steps.length (by simp)
      rw [List.take_left' rfl, List.getElem?_concat_length] at hfree
      rw [after_concat]
      exact (ih h.of_append).next hfree

@[simp]
theorem tables_after (tables : List String) (steps : List LockStep) :
    (after tables steps).tables = tables := by
  induction steps using List.reverseRecOn with
  | nil => rfl
  | append_singleton steps step ih => rw [after_concat, tables_next, ih]

/-- At every point of a run in which no step waits, a table is locked exactly if a guard that lists
it is kept.  A guard is given exactly if all tables are there, and lists each of them once in
ascending order.  Otherwise the failure is the least table that is not there, and the locks stay as
they are. -/
theorem after_exact (h : NoneWaits tables steps) {before : List LockStep}
    (hbefore : before <+: steps) :
    let m := after tables before
    (∀ table, m.isLocked table = true ↔
      ∃ guard, Kept tables before guard ∧ table ∈ guard.tables) ∧
    ∀ owner names,
      ((∃ guard m', m.lock owner names = .ok (guard, m')) ↔ ∀ table ∈ names, table ∈ tables) ∧
      (∀ guard m', m.lock owner names = .ok (guard, m') →
        guard.tables.Pairwise (· < ·) ∧ ∀ table, table ∈ guard.tables ↔ table ∈ names) ∧
      ∀ failure, m.lock owner names = .error failure →
        ∃ table, failure = .unknownTable table ∧ table ∈ names ∧ table ∉ tables ∧
          (∀ other ∈ names, other ∉ tables → table ≤ other) ∧
          m.next (.lock owner names) = m := by
  intro m
  obtain ⟨later, rfl⟩ := hbefore
  have htables : m.tables = tables := tables_after tables before
  refine ⟨fun table => ?_, fun owner names => ?_⟩
  · rw [h.of_append.tidy.isLocked_iff]
    simp only [mem_guards_after]
  · rw [next, ← htables]
    rcases lock_cases m owner names with ⟨hknown, hlock⟩ | ⟨table, hlock, hmem, hunknown, hleast⟩
    · rw [hlock]
      refine ⟨iff_of_true ⟨_, _, rfl⟩ hknown, ?_, fun _ hfail => by cases hfail⟩
      rintro _ _ ⟨⟩
      exact ⟨pairwise_lockOrder names, fun _ => mem_lockOrder⟩
    · rw [hlock]
      refine ⟨iff_of_false ?_ fun hknown => hunknown (hknown table hmem), ?_, ?_⟩
      · rintro ⟨_, _, ⟨⟩⟩
      · rintro _ _ ⟨⟩
      · rintro _ ⟨⟩
        exact ⟨table, rfl, hmem, hunknown, hleast, rfl⟩

/-- One owner drops a guard on two tables while another keeps one on a third.  The two tables can be
locked again, and of two tables that are not there the lesser is reported. -/
theorem sample_after_exact :
    let tables := ["cars", "beer", "wine"]
    let before : List LockStep := [.lock "a" ["wine", "beer", "wine"],
      .lock "b" ["ghost", "cars", "elf"], .lock "b" ["cars"], .unlock "a"]
    let m := after tables before
    (∃ guard, Kept tables before guard ∧ "cars" ∈ guard.tables) ∧
      (¬ ∃ guard, Kept tables before guard ∧ "beer" ∈ guard.tables) ∧
      (∃ guard m', m.lock "c" ["wine", "beer", "wine"] = .ok (guard, m') ∧
        guard.tables.Pairwise (· < ·) ∧
        ∀ table, table ∈ guard.tables ↔ table ∈ ["wine", "beer", "wine"]) ∧
      m.lock "c" ["ghost", "beer", "elf"] = .error (.unknownTable "elf") ∧
      m.next (.lock "c" ["ghost", "beer", "elf"]) = m := by
  intro tables before m
  have hnone : NoneWaits tables (before ++ [.lock "c" ["wine", "beer", "wine"]]) := by
    decide +kernel
  obtain ⟨hlocked, hlock⟩ := after_exact hnone (List.prefix_append before _)
  obtain ⟨guard, m', hguard⟩ := (hlock "c" ["wine", "beer", "wine"]).1.2 (by decide)
  have herror : m.lock "c" ["ghost", "beer", "elf"] = .error (.unknownTable "elf") := by
    decide +kernel
  obtain ⟨_, -, -, -, -, hsame⟩ := (hlock "c" ["ghost", "beer", "elf"]).2.2 _ herror
  refine ⟨(hlocked "cars").1 (by decide +kernel), ?_,
    ⟨guard, m', hguard, (hlock "c" _).2.1 guard m' hguard⟩, herror, hsame⟩
  exact mt (hlocked "beer").2 (by decide +kernel)

end Locks

end SheetStore
