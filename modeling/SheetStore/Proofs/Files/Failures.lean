import SheetStore.Proofs.Files.Writing
import SheetStore.Proofs.Simulation

/-!
# Failures of storage actions

An action *fails only with* the failures that a predicate allows (`Storage.FailsOnly`).  This
follows the structure of actions: it holds of values and questions, of single file operations, and
of one action after another.

A file operation fails late, when a part of the work may be done.  An action is *whole* if every
other failure leaves the tree as it was (`Storage.Whole`).  A question is whole, and so is an action
that comes after a question, or before what fails with file operations alone.
-/

namespace SheetStore

/-- Whether the failure is that of a file operation. -/
def Failure.isStorage : Failure → Bool
  | .storage _ _ => true
  | _ => false

namespace Storage

/-! ## The failures of an action -/

/-- The action fails only with failures that are allowed. -/
def FailsOnly (allowed : Failure → Prop) (x : Storage α) : Prop :=
  ∀ files failure after, x files = .error failure after → allowed failure

theorem of_reading_error {question : FileTree → Except Failure α} {files after : FileTree}
    {failure : Failure} (h : reading question files = .error failure after) :
    question files = .error failure ∧ after = files := by
  cases hquestion : question files with
  | ok a => cases (reading_of_ok hquestion).symm.trans h
  | error failure' =>
      cases (reading_of_error hquestion).symm.trans h
      exact ⟨rfl, rfl⟩

theorem of_reading_ok {question : FileTree → Except Failure α} {files after : FileTree} {a : α}
    (h : reading question files = .ok a after) : question files = .ok a ∧ after = files := by
  cases hquestion : question files with
  | ok a' =>
      cases (reading_of_ok hquestion).symm.trans h
      exact ⟨rfl, rfl⟩
  | error failure => cases (reading_of_error hquestion).symm.trans h

namespace FailsOnly

variable {allowed : Failure → Prop} {x : Storage α}

theorem mono {p : Failure → Prop} (h : FailsOnly allowed x)
    (hp : ∀ failure, allowed failure → p failure) : FailsOnly p x :=
  fun files failure after hx => hp failure (h files failure after hx)

theorem pure (a : α) : FailsOnly allowed (pure a : Storage α) := nofun

theorem bind {f : α → Storage β} (hx : FailsOnly allowed x) (hf : ∀ a, FailsOnly allowed (f a)) :
    FailsOnly allowed (x >>= f) := by
  intro files failure after h
  rcases of_bind_eq_error h with hfirst | ⟨a, left, -, hsecond⟩
  · exact hx files failure after hfirst
  · exact hf a left failure after hsecond

theorem reading {question : FileTree → Except Failure α}
    (h : ∀ files failure, question files = .error failure → allowed failure) :
    FailsOnly allowed (reading question) :=
  fun files failure _ hx => h files failure (of_reading_error hx).1

/-- What follows a question may be allowed to fail by its answer. -/
theorem reading_bind {question : FileTree → Except Failure α} {f : α → Storage β}
    (h : ∀ files failure, question files = .error failure → allowed failure)
    (hf : ∀ files a, question files = .ok a → FailsOnly allowed (f a)) :
    FailsOnly allowed (Storage.reading question >>= f) := by
  intro files failure after hx
  rcases of_bind_eq_error hx with hfirst | ⟨a, left, hfirst, hsecond⟩
  · exact h files failure (of_reading_error hfirst).1
  · exact hf files a (of_reading_ok hfirst).1 left failure after hsecond

theorem change {path : Path} {operation : FileTree → Except FileError FileTree}
    (h : ∀ cause, allowed (.storage path cause)) : FailsOnly allowed (change path operation) := by
  intro files failure after hx
  cases hoperation : operation files with
  | ok made => cases (change_of_ok hoperation).symm.trans hx
  | error cause =>
      cases (change_of_error hoperation).symm.trans hx
      exact h cause

theorem replaceText {path : Path} {text : String} (h : ∀ cause, allowed (.storage path cause))
    (htemp : ∀ cause, allowed (.storage (temporary path) cause)) :
    FailsOnly allowed (replaceText path text) :=
  (change htemp).bind fun _ => change h

theorem ensureText {path : Path} {text : String} (h : ∀ cause, allowed (.storage path cause))
    (htemp : ∀ cause, allowed (.storage (temporary path) cause)) :
    FailsOnly allowed (ensureText path text) := by
  refine bind (fun _ _ _ hget => nomatch hget) fun files => ?_
  split
  · exact replaceText h htemp
  · exact pure ()

end FailsOnly

/-! ## Whole actions -/

/-- A failure that is not a failed file operation leaves the tree as it was. -/
def Whole (x : Storage α) : Prop :=
  ∀ files failure after, x files = .error failure after → failure.isStorage = false → after = files

namespace Whole

variable {x : Storage α}

/-- What fails with file operations alone is whole. -/
theorem of_failsOnly (h : FailsOnly (·.isStorage = true) x) : Whole x := by
  intro files failure after hx hfailure
  rw [h files failure after hx] at hfailure
  cases hfailure

/-- A question may come first. -/
theorem reading_bind {question : FileTree → Except Failure α} {f : α → Storage β}
    (hf : ∀ a, Whole (f a)) : Whole (Storage.reading question >>= f) := by
  intro files failure after hx hfailure
  rcases of_bind_eq_error hx with hfirst | ⟨a, left, hfirst, hsecond⟩
  · exact (of_reading_error hfirst).2
  · rw [← (of_reading_ok hfirst).2]
    exact hf a left failure after hsecond hfailure

/-- What fails with file operations alone may come last. -/
theorem bind {f : α → Storage β} (hx : Whole x) (hf : ∀ a, FailsOnly (·.isStorage = true) (f a)) :
    Whole (x >>= f) := by
  intro files failure after h hfailure
  rcases of_bind_eq_error h with hfirst | ⟨a, left, -, hsecond⟩
  · exact hx files failure after hfirst hfailure
  · rw [hf a left failure after hsecond] at hfailure
    cases hfailure

end Whole

/-! ## What an action keeps -/

theorem reading_keeps {p : FileTree → Prop} (question : FileTree → Except Failure α) :
    Keeps p (reading question) := by
  intro files hp
  cases hquestion : question files with
  | ok a => rwa [reading_of_ok hquestion]
  | error failure => rwa [reading_of_error hquestion]

/-- Replacing a file changes nothing outside its directory. -/
theorem replaceText_keeps_outside (files : FileTree) (dir : Path) (name text : String) :
    Keeps (FileTree.SameOutside dir files) (replaceText (dir.entry name) text) := by
  intro left hleft
  have hne : ∀ q, dir.holds q = false → ∀ other, q ≠ dir.entry other := by
    rintro q hq other rfl
    rw [Path.holds_entry] at hq
    cases hq
  refine hleft.trans fun q hq => ?_
  rcases replaceText_cases left dir name text with
    ⟨after, hrun, -, hview⟩ | ⟨failure, after, hrun, rfl | ⟨-, hsame⟩⟩
  · rw [hrun]
    exact (hview q).trans (by rw [if_neg (hne q hq name), temporary_entry, if_neg (hne q hq _)])
  · rw [hrun]
    rfl
  · rw [hrun]
    exact hsame q (temporary_entry dir name ▸ hne q hq _)

end Storage

end SheetStore
