import Mathlib.Data.Fintype.Card
import Mathlib.Order.RelIso.Basic
import Mathlib.Order.WellFounded
import SheetStore.Proofs.Interleaving
import SheetStore.Proofs.Steps

/-!
# No deadlock

Workers that wait for each other in a circle would wait for ever.  They do not, because each of them
locks its tables in ascending order: a worker that waits holds only tables before the one it waits
for, so along a chain of waiting workers the tables that they wait for ascend
(`Safe.exists_held_of_waits`).  A chain that comes back to where it began would ascend from a table
to itself.

The order is the half of `Safe` that is about a single worker.  The other half says that a table is
held by one worker at most.  Every step keeps both (`Safe.step`), whatever the other workers do and
whatever is in the files.
-/

namespace SheetStore

open Relation (ReflTransGen TransGen)

namespace Worker

/-- The locks that the worker holds, and after them those it wants, are in ascending order. -/
def Ascending : Worker → Prop
  | .locking held wanted _ _ _ => (held ++ wanted).Pairwise (· < ·)
  | _ => True

variable {worker : Worker} {table : String}

/-- A worker that waits holds only tables before the one it waits for. -/
theorem Ascending.lt_next (h : worker.Ascending) (hnext : worker.next? = some table) :
    ∀ held ∈ worker.held, held < table := by
  cases worker with
  | ready => cases hnext
  | releasing => cases hnext
  | done => cases hnext
  | locking held wanted phase later outcome =>
      cases wanted with
      | nil => cases hnext
      | cons first rest =>
          cases hnext
          exact fun other hother =>
            (List.pairwise_append.1 h).2.2 other hother table List.mem_cons_self

/-- A worker that holds a table is not through. -/
theorem isDone_of_mem_held (h : table ∈ worker.held) : worker.isDone = false := by
  cases worker with
  | ready => rfl
  | locking => rfl
  | releasing => rfl
  | done => cases h

/-- A worker that is not through can take a step, or a table that it wants is not free. -/
theorem exists_move_or_next (db : Database) (free : String → Prop) (files : FileTree)
    (h : worker.isDone = false) :
    (∃ worker' files', Move db free files worker worker' files') ∨
      ∃ table, worker.next? = some table ∧ ¬ free table := by
  cases worker with
  | done => cases h
  | ready phases outcome =>
      cases phases with
      | nil => exact .inl ⟨_, _, .finish outcome⟩
      | cons phase later =>
          cases hplan : db.lockPlan phase.tables with
          | error failure => exact .inl ⟨_, _, .refuse hplan⟩
          | ok order => exact .inl ⟨_, _, .enter hplan⟩
  | locking held wanted phase later outcome =>
      cases wanted with
      | nil => exact .inl ⟨_, _, .work held phase later outcome⟩
      | cons table rest =>
          by_cases hfree : free table
          · exact .inl ⟨_, _, .acquire hfree⟩
          · exact .inr ⟨table, rfl, hfree⟩
  | releasing held result later =>
      cases held with
      | cons table held => exact .inl ⟨_, _, .release table held result later⟩
      | nil =>
          cases result with
          | ok outcome => exact .inl ⟨_, _, .goOn outcome later⟩
          | error failure => exact .inl ⟨_, _, .stop failure later⟩

end Worker

namespace Move

variable {db : Database} {free : String → Prop} {files files' : FileTree} {worker worker' : Worker}

theorem ascending (h : Move db free files worker worker' files') (hworker : worker.Ascending) :
    worker'.Ascending := by
  cases h with
  | finish => trivial
  | refuse => trivial
  | @enter phase _ _ _ hplan =>
      rw [Database.eq_lockOrder_of_lockPlan hplan]
      exact pairwise_lockOrder phase.tables
  | acquire =>
      rw [Worker.Ascending, List.append_assoc, List.singleton_append]
      exact hworker
  | work => trivial
  | release => trivial
  | goOn => trivial
  | stop => trivial

/-- A lock that the worker holds after a step was its own before, or free. -/
theorem held (h : Move db free files worker worker' files') {table : String}
    (hheld : table ∈ worker'.held) : table ∈ worker.held ∨ free table := by
  cases h with
  | finish => cases hheld
  | refuse => cases hheld
  | enter => cases hheld
  | acquire hfree =>
      refine (List.mem_append.1 hheld).imp id fun hmem => ?_
      rw [List.mem_singleton.1 hmem]
      exact hfree
  | work => exact .inl hheld
  | release => exact .inl (List.mem_cons_of_mem _ hheld)
  | goOn => cases hheld
  | stop => cases hheld

end Move

/-! ## What every step keeps -/

variable {ι : Type} {db : Database} {s s' : System ι}

/-- The locks of a system are in order. -/
structure Safe (s : System ι) : Prop where
  /-- Every worker takes its locks in ascending order. -/
  ascending : ∀ i, (s.workers i).Ascending
  /-- No table is held by two workers. -/
  exclusive : ∀ i j table, table ∈ (s.workers i).held → table ∈ (s.workers j).held → i = j

namespace Safe

/-- At the start no lock is held. -/
theorem start (db : Database) (statements : ι → Statement) (files : FileTree) :
    Safe (System.start db statements files) := by
  have hstart : ∀ statement, (Worker.start db statement).Ascending ∧
      (Worker.start db statement).held = [] := by
    intro statement
    rw [Worker.start]
    split
    · exact ⟨trivial, rfl⟩
    · exact ⟨trivial, rfl⟩
  refine ⟨fun i => (hstart (statements i)).1, fun i j table hi _ => ?_⟩
  rw [System.start, (hstart (statements i)).2] at hi
  cases hi

theorem step [DecidableEq ι] (h : Safe s) (hstep : System.Step db s s') : Safe s' := by
  cases hstep with
  | disturb files => exact ⟨h.ascending, h.exclusive⟩
  | @move i worker files hmove =>
      constructor
      · intro j
        by_cases hj : j = i
        · simpa only [hj, Function.update_self] using hmove.ascending (h.ascending i)
        · simpa only [Function.update_of_ne hj] using h.ascending j
      · -- what the worker holds now is not held by another one
        have hother : ∀ j table, j ≠ i → table ∈ worker.held → table ∉ (s.workers j).held := by
          intro j table hj hheld hother
          rcases hmove.held hheld with hbefore | hfree
          · exact hj (h.exclusive j i table hother hbefore)
          · exact hfree j hother
        intro j k table hj hk
        by_cases hji : j = i <;> by_cases hki : k = i
        · rw [hji, hki]
        · simp only [hji, Function.update_self] at hj
          simp only [Function.update_of_ne hki] at hk
          exact absurd hk (hother k table hki hj)
        · simp only [Function.update_of_ne hji] at hj
          simp only [hki, Function.update_self] at hk
          exact absurd hj (hother j table hji hk)
        · simp only [Function.update_of_ne hji] at hj
          simp only [Function.update_of_ne hki] at hk
          exact h.exclusive j k table hj hk

theorem reachable [DecidableEq ι] (h : Safe s) (hsteps : ReflTransGen (System.Step db) s s') :
    Safe s' := by
  induction hsteps with
  | refl => exact h
  | tail _ hstep ih => exact ih.step hstep

/-! ## Waiting -/

/-- Down a chain of waiting workers, a table is held that does not come before the one that the
first worker waits for. -/
theorem exists_held_of_waits (h : Safe s) {i j : ι} (hwaits : TransGen s.WaitsFor i j)
    {table : String} (hnext : (s.workers i).next? = some table) :
    ∃ held ∈ (s.workers j).held, held = table ∨ table < held := by
  induction hwaits with
  | single hwait =>
      obtain ⟨first, hfirst, hheld⟩ := hwait
      obtain rfl := Option.some.inj (hnext.symm.trans hfirst)
      exact ⟨table, hheld, .inl rfl⟩
  | @tail k l _ hwait ih =>
      obtain ⟨before, hbefore, hle⟩ := ih
      obtain ⟨next, hknext, hheld⟩ := hwait
      have hlt : before < next := (h.ascending k).lt_next hknext before hbefore
      refine ⟨next, hheld, .inr ?_⟩
      rcases hle with rfl | hle
      · exact hlt
      · exact String.lt_trans hle hlt

/-- No worker waits for itself, directly or through others. -/
theorem not_waits_self (h : Safe s) (i : ι) : ¬ TransGen s.WaitsFor i i := by
  intro hwaits
  obtain ⟨_, ⟨table, hnext, -⟩, -⟩ := TransGen.head'_iff.1 hwaits
  obtain ⟨held, hheld, hle⟩ := h.exists_held_of_waits hwaits hnext
  have hlt : held < table := (h.ascending i).lt_next hnext held hheld
  rcases hle with rfl | hle
  · exact String.lt_irrefl held hlt
  · exact String.lt_irrefl held (String.lt_trans hlt hle)

/-- As long as a worker is not through, one of those that are not can take a step. -/
theorem exists_move [Finite ι] (h : Safe s) (hunfinished : ∃ i, (s.workers i).isDone = false) :
    ∃ i worker files, (s.workers i).isDone = false ∧
      Move db s.Free s.files (s.workers i) worker files := by
  have : IsTrans ι fun j i => TransGen s.WaitsFor i j := ⟨fun _ _ _ hji hkj => hkj.trans hji⟩
  have : Std.Irrefl fun j i => TransGen s.WaitsFor i j := ⟨h.not_waits_self⟩
  have hwell : WellFounded fun j i => TransGen s.WaitsFor i j :=
    Finite.wellFounded_of_trans_of_irrefl _
  -- a worker at the end of a chain of waiting workers
  obtain ⟨i, hi, hlast⟩ := hwell.has_min {i | (s.workers i).isDone = false} hunfinished
  rcases Worker.exists_move_or_next db s.Free s.files hi with
    ⟨worker, files, hmove⟩ | ⟨table, hnext, hfree⟩
  · exact ⟨i, worker, files, hi, hmove⟩
  · obtain ⟨j, hheld⟩ := not_forall_not.1 hfree
    exact absurd (.single ⟨table, hnext, hheld⟩) (hlast j (Worker.isDone_of_mem_held hheld))

end Safe

namespace System

/-- In whatever order the workers of a system take their steps, no table is held by two of them, one
of those that are not through can take a step, and none waits in a circle. -/
theorem no_deadlock [DecidableEq ι] [Finite ι] {statements : ι → Statement} {files : FileTree}
    (h : ReflTransGen (Step db) (start db statements files) s) :
    (∀ i j table, table ∈ (s.workers i).held → table ∈ (s.workers j).held → i = j) ∧
      ((∃ i, (s.workers i).isDone = false) → ∃ i worker files', (s.workers i).isDone = false ∧
        Move db s.Free s.files (s.workers i) worker files') ∧
      ∀ i, ¬ TransGen s.WaitsFor i i := by
  have hsafe := (Safe.start db statements files).reachable h
  exact ⟨hsafe.exclusive, hsafe.exists_move, hsafe.not_waits_self⟩

/-- Two selections that list their tables in opposite order.  One has locked the first table, for
which the other waits.  That one holds nothing, so the first can go on. -/
theorem sample_no_deadlock :
    let statements : Bool → Statement := fun i =>
      .select ["beer.name"] (if i then ["beer", "brewer", "beer"] else ["brewer", "beer"]) none
    ∃ s : System Bool, ReflTransGen (Step Database.sample)
        (start Database.sample statements FileTree.empty) s ∧
      (s.workers true).held = ["beer"] ∧ s.WaitsFor false true ∧
      ∃ i worker files, (s.workers i).isDone = false ∧
        Move Database.sample s.Free s.files (s.workers i) worker files := by
  intro statements
  have hplan : Database.sample.lockPlan ["beer", "brewer", "beer"] = .ok ["beer", "brewer"] := by
    decide +kernel
  have hplan' : Database.sample.lockPlan ["brewer", "beer"] = .ok ["beer", "brewer"] := by
    decide +kernel
  have hentered : ReflTransGen (Step Database.sample)
      (start Database.sample statements FileTree.empty) _ :=
    .single (.move (i := true) (.enter hplan))
  have hlocked := hentered.tail (.move (i := true) (.acquire fun i => by
    cases i <;> exact List.not_mem_nil))
  have hreached := hlocked.tail (.move (i := false) (.enter hplan'))
  obtain ⟨-, hmove, -⟩ := no_deadlock hreached
  exact ⟨_, hreached, rfl, ⟨"beer", rfl, List.mem_singleton_self _⟩, hmove ⟨true, rfl⟩⟩

end System

end SheetStore
