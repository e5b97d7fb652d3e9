import SheetStore.Files.Path
import SheetStore.Files.Error

/-!
# File trees

A file tree says what stands at each path: a file with its bytes, a directory, or nothing.  It is
kept as one map from paths to nodes, and everything in the map lies in a directory, which is a base
or itself in the map (`FileTree.rooted`).  Two trees with the same node at every path are equal
(`FileTree.ext_get?`), so that "nothing else changed" can be stated as an equation of trees.

Three primitive changes keep the condition: `put` one node into a directory, `drop` one file, and
`dropAll` of a path with everything below it.  Each leaves the tree as it is where the condition
would break, and its lemma gives the view `get?` of the result.
-/

namespace SheetStore

/-- What stands at a path. -/
inductive Node where
  /-- A directory. -/
  | directory
  /-- A file with its bytes. -/
  | file (contents : ByteArray)
deriving Inhabited

instance : DecidableEq Node
  | .directory, .directory => isTrue rfl
  | .directory, .file _ => isFalse nofun
  | .file _, .directory => isFalse nofun
  | .file a, .file b =>
      match ByteArray.instDecidableEq a b with
      | isTrue h => isTrue (congrArg Node.file h)
      | isFalse h => isFalse fun heq => h (Node.file.inj heq)

/-- The node at a path, given the nodes below the bases. -/
def nodeAt (entries : Std.ExtTreeMap Path Node) : Path → Option Node
  | .base _ => some .directory
  | p => entries[p]?

/-- The files and directories below the bases. -/
structure FileTree where
  /-- The node at each path where there is one. -/
  entries : Std.ExtTreeMap Path Node
  /-- Everything in the map lies in a directory. -/
  rooted : ∀ p ∈ entries, ∃ dir name, p = .entry dir name ∧ nodeAt entries dir = some .directory

namespace FileTree

/-- The tree that holds nothing but the bases. -/
def empty : FileTree := ⟨∅, by simp⟩

instance : Inhabited FileTree := ⟨empty⟩

/-! ## The view -/

/-- The node at a path. -/
def get? (t : FileTree) (p : Path) : Option Node := nodeAt t.entries p

/-- Whether there is a directory at the path. -/
def isDirectory (t : FileTree) (p : Path) : Bool := decide (t.get? p = some .directory)

/-- Whether there is anything at the path. -/
def contains (t : FileTree) (p : Path) : Bool := (t.get? p).isSome

@[simp] theorem get?_base (t : FileTree) (s : String) : t.get? (.base s) = some .directory := rfl

theorem get?_entry (t : FileTree) (dir : Path) (name : String) :
    t.get? (.entry dir name) = t.entries[Path.entry dir name]? := rfl

@[simp] theorem isDirectory_iff {t : FileTree} {p : Path} :
    t.isDirectory p = true ↔ t.get? p = some .directory := by
  simp [isDirectory]

/-- The directory around an entry of the tree. -/
theorem get?_parent {t : FileTree} {dir : Path} {name : String} {node : Node}
    (h : t.get? (.entry dir name) = some node) : t.get? dir = some .directory := by
  have hmem : Path.entry dir name ∈ t.entries := by
    rw [Std.ExtTreeMap.mem_iff_isSome_getElem?, ← get?_entry, h]; rfl
  obtain ⟨d, n, heq, hd⟩ := t.rooted _ hmem
  cases heq
  exact hd

/-- Trees with the same node at every path are equal. -/
theorem ext_get? {s t : FileTree} (h : ∀ p, s.get? p = t.get? p) : s = t := by
  have hentries : s.entries = t.entries := by
    apply Std.ExtTreeMap.ext_getElem?
    intro p
    cases p with
    | entry dir name => exact h (.entry dir name)
    | base text =>
        have none_at_base : ∀ u : FileTree, u.entries[Path.base text]? = none := by
          intro u
          apply Std.ExtTreeMap.getElem?_eq_none
          intro hmem
          obtain ⟨_, _, heq, _⟩ := u.rooted _ hmem
          cases heq
        rw [none_at_base s, none_at_base t]
  cases s; cases t; cases hentries; rfl

/-! ## Primitive changes -/

/-- Puts a node into a directory.  A directory is never replaced by a file. -/
def put (t : FileTree) (dir : Path) (name : String) (node : Node) : FileTree :=
  if h : t.get? dir = some .directory ∧
      (node = .directory ∨ t.get? (.entry dir name) ≠ some .directory) then
    { entries := t.entries.insert (.entry dir name) node
      rooted := by
        have keeps : ∀ d, nodeAt t.entries d = some .directory →
            nodeAt (t.entries.insert (.entry dir name) node) d = some .directory := by
          intro d hd
          cases d with
          | base => rfl
          | entry e n =>
              simp only [nodeAt, Std.ExtTreeMap.getElem?_insert]
              split
              · rename_i heq
                rw [← Std.LawfulEqOrd.eq_of_compare heq] at hd
                rcases h.2 with hnode | hdir
                · rw [hnode]
                · exact absurd hd hdir
              · exact hd
        intro p hp
        rw [Std.ExtTreeMap.mem_insert] at hp
        rcases hp with hp | hp
        · exact ⟨dir, name, (Std.LawfulEqOrd.eq_of_compare hp).symm, keeps dir h.1⟩
        · obtain ⟨d, n, heq, hd⟩ := t.rooted p hp
          exact ⟨d, n, heq, keeps d hd⟩ }
  else t

/-- Drops a file. -/
def drop (t : FileTree) (p : Path) : FileTree :=
  if h : t.get? p ≠ some .directory then
    { entries := t.entries.erase p
      rooted := by
        intro q hq
        rw [Std.ExtTreeMap.mem_erase] at hq
        obtain ⟨d, n, heq, hd⟩ := t.rooted q hq.2
        refine ⟨d, n, heq, ?_⟩
        cases d with
        | base => rfl
        | entry e m =>
            simp only [nodeAt, Std.ExtTreeMap.getElem?_erase]
            split
            · rename_i hpd
              rw [← Std.LawfulEqOrd.eq_of_compare hpd] at hd
              exact absurd hd h
            · exact hd }
  else t

/-- Drops what stands at a path and everything below it. -/
def dropAll (t : FileTree) (p : Path) : FileTree where
  entries := t.entries.filter fun q _ => !p.holds q
  rooted := by
    intro q hq
    rw [Std.ExtTreeMap.mem_filter] at hq
    obtain ⟨hmem, hkept⟩ := hq
    obtain ⟨d, n, rfl, hd⟩ := t.rooted q hmem
    refine ⟨d, n, rfl, ?_⟩
    cases d with
    | base => rfl
    | entry e m =>
        simp only [Std.ExtTreeMap.getKey_eq, Path.holds, Bool.not_or, Bool.and_eq_true,
          Bool.not_eq_true'] at hkept
        simp only [nodeAt] at hd
        simp [nodeAt, hd, Path.holds, hkept.2]

/-! ## The view after a change -/

theorem get?_put {t : FileTree} {dir : Path} {name : String} {node : Node}
    (hdir : t.get? dir = some .directory)
    (hnode : node = .directory ∨ t.get? (.entry dir name) ≠ some .directory) (p : Path) :
    (t.put dir name node).get? p = if p = .entry dir name then some node else t.get? p := by
  rw [put, dif_pos ⟨hdir, hnode⟩]
  cases p with
  | base => simp
  | entry e n =>
      simp only [get?_entry, Std.ExtTreeMap.getElem?_insert, Std.LawfulEqCmp.compare_eq_iff_eq]
      simp only [eq_comm]

theorem get?_drop {t : FileTree} {p : Path} (h : t.get? p ≠ some .directory) (q : Path) :
    (t.drop p).get? q = if q = p then none else t.get? q := by
  rw [drop, dif_pos h]
  cases q with
  | base s =>
      have : Path.base s ≠ p := by rintro rfl; exact h rfl
      simp [this]
  | entry e n =>
      simp only [get?_entry, Std.ExtTreeMap.getElem?_erase, Std.LawfulEqCmp.compare_eq_iff_eq]
      simp only [eq_comm]

theorem get?_dropAll (t : FileTree) (p : Path) (dir : Path) (name : String) :
    (t.dropAll p).get? (.entry dir name) =
      if p.holds (.entry dir name) then none else t.get? (.entry dir name) := by
  rw [get?_entry, get?_entry, dropAll, Std.ExtTreeMap.getElem?_filter']
  cases h : p.holds (.entry dir name) <;> cases t.entries[Path.entry dir name]? <;>
    simp [Option.filter]

end FileTree

end SheetStore
