import Std.Data.ExtTreeSet
import SheetStore.Failure

/-!
# Locks

A statement locks the tables it works on.  The tables are locked one by one, each once and in the
order of their names, whatever order the statement gives (`lockOrder`).  So no two statements can
wait for each other in a circle.  A table that is not known is found before anything is locked.

`Locks` holds the tables there are, the locks among them that are taken, and the *guards* that are
kept.  A guard lists the tables whose locks it took and is dropped as a whole, which releases them.
Taking a lock waits until it is released, so `Locks.lock` describes the state once the wait is over.
-/

namespace SheetStore

/-- The tables that a statement locks, in the order in which it locks them. -/
def lockOrder (tables : List String) : List String := (Std.ExtTreeSet.ofList tables).toList

/-- The tables to lock in their order, or the first of them that is not known. -/
def lockPlan (known : String → Bool) (tables : List String) : Except Failure (List String) :=
  match (lockOrder tables).find? (!known ·) with
  | some table => .error (.unknownTable table)
  | none => .ok (lockOrder tables)

/-- Tables that are kept locked. -/
structure Guard where
  /-- Who keeps them. -/
  owner : String
  /-- The tables, in the order in which they were locked. -/
  tables : List String
deriving DecidableEq, Repr

/-- The locks on a set of tables. -/
structure Locks where
  /-- The tables there are. -/
  tables : List String
  /-- The tables whose locks are taken. -/
  taken : List String := []
  /-- The guards that are kept, the newest first. -/
  guards : List Guard := []
deriving DecidableEq, Repr

namespace Locks

/-- Takes the locks of the tables that a guard lists, and keeps the guard. -/
def take (m : Locks) (guard : Guard) : Locks :=
  { m with taken := guard.tables ++ m.taken, guards := guard :: m.guards }

/-- Takes a guard on the tables. -/
def lock (m : Locks) (owner : String) (tables : List String) :
    Except Failure (Guard × Locks) := do
  let guard : Guard := ⟨owner, ← lockPlan m.tables.contains tables⟩
  return (guard, m.take guard)

/-- Drops every guard of an owner. -/
def unlock (m : Locks) (owner : String) : Locks :=
  let dropped := m.guards.filter (·.owner == owner)
  { m with
    taken := m.taken.filter fun table => !dropped.any (·.tables.contains table)
    guards := m.guards.filter (·.owner != owner) }

/-- Whether the lock of a table is taken. -/
def isLocked (m : Locks) (table : String) : Bool :=
  m.tables.contains table && m.taken.contains table

/-- The tables that are locked, in the order of `tables`. -/
def lockedTables (m : Locks) : List String := m.tables.filter m.isLocked

end Locks

end SheetStore
