import Std.Data.ExtTreeMap

/-!
# Paths

A path is a base, which is a directory that always exists, or an entry of a given name below
another path.  A base is known by its text alone, for instance an absolute directory or `.`.  The
names of entries are free of slashes, since they are table names and sheet names.

Paths are ordered by their segments, the name of the entry first and the base last.  The order has
no meaning of its own: it is what makes a path the key of an ordered map, and two paths compare
equal only if they are equal.
-/

namespace SheetStore

/-- A path: a base or an entry below another path. -/
inductive Path where
  /-- A directory that always exists, known by its text. -/
  | base (text : String)
  /-- The entry of the given name in a directory. -/
  | entry (dir : Path) (name : String)
deriving DecidableEq, Inhabited

namespace Path

/-- The path as it stands in messages, its parts separated by slashes. -/
def text : Path → String
  | .base s => s
  | .entry dir name => dir.text ++ "/" ++ name

/-- The path with more text at the end of its last name. -/
def extend : Path → String → Path
  | .base s, more => .base (s ++ more)
  | .entry dir name, more => .entry dir (name ++ more)

/-- The path below a directory that leads along the names, outermost first. -/
def along (dir : Path) (names : List String) : Path := names.foldl entry dir

/-- Whether a path is the given one or lies somewhere below it. -/
def holds (p : Path) : Path → Bool
  | .base s => p == .base s
  | .entry dir name => p == .entry dir name || p.holds dir

/-! ## Order -/

/-- The name of the entry, the names of the directories around it, and the base. -/
def segments : Path → List String
  | .base s => [s]
  | .entry dir name => name :: dir.segments

theorem segments_ne_nil (p : Path) : p.segments ≠ [] := by
  cases p <;> simp [segments]

theorem segments_inj : ∀ {p q : Path}, p.segments = q.segments → p = q
  | .base _, .base _, h => by simp_all [segments]
  | .base _, .entry dir _, h => by
      simp only [segments, List.cons.injEq] at h
      exact absurd h.2.symm dir.segments_ne_nil
  | .entry dir _, .base _, h => by
      simp only [segments, List.cons.injEq] at h
      exact absurd h.2 dir.segments_ne_nil
  | .entry d _, .entry e _, h => by
      simp only [segments, List.cons.injEq] at h
      rw [h.1, segments_inj h.2]

instance : Ord Path := ⟨compareOn segments⟩

instance : Std.TransOrd Path := inferInstanceAs (Std.TransCmp (compareOn segments))

instance : Std.LawfulEqOrd Path where
  eq_of_compare h := segments_inj (Std.LawfulEqOrd.eq_of_compare h)

/-! ## Ancestors -/

theorem holds_self (p : Path) : p.holds p = true := by
  cases p <;> simp [holds]

theorem entry_ne (dir : Path) (name : String) : Path.entry dir name ≠ dir := by
  intro h
  have := congrArg (List.length ∘ segments) h
  simp [segments] at this

end Path

end SheetStore
