import SheetStore.Files.Operations

/-!
# What lies below a path

`Path.holds` is the order of a file tree: a path holds the paths from itself downwards.  It is the
suffix order on segments (`Path.holds_iff`), so nothing lies below two entries of one directory
(`Path.holds_sibling`), and what is below a directory is not the directory around it.

A change *stays below* a path if every path that it does not hold keeps its node
(`FileTree.SameOutside`).  Below a path with nothing there is nothing, and what holds a directory is
a directory (`FileTree.get?_of_holds_none`, `FileTree.get?_of_holds_directory`).
-/

namespace SheetStore

/-! ## The order of paths -/

namespace Path

/-- A path holds those whose segments end with its own. -/
theorem holds_iff {p q : Path} : p.holds q = true ↔ p.segments <:+ q.segments := by
  induction q with
  | base s =>
      rw [holds, beq_iff_eq]
      constructor
      · rintro rfl
        exact List.suffix_refl _
      · intro h
        have hlen := h.length_le
        cases p with
        | base t =>
            rw [segments, segments, List.suffix_cons_iff] at h
            rcases h with h | h
            · rw [List.cons.inj h |>.1]
            · simp at h
        | entry dir name =>
            have hpos := List.length_pos_iff.2 dir.segments_ne_nil
            simp only [segments, List.length_cons, List.length_nil] at hlen
            omega
  | entry dir name ih =>
      rw [holds, Bool.or_eq_true, beq_iff_eq, ih]
      constructor
      · rintro (rfl | h)
        · exact List.suffix_refl _
        · exact h.trans (List.suffix_cons _ _)
      · intro h
        rw [segments, List.suffix_cons_iff] at h
        exact h.imp (fun h => segments_inj (by rw [segments, h])) id

theorem holds_trans {p q r : Path} (hpq : p.holds q = true) (hqr : q.holds r = true) :
    p.holds r = true := holds_iff.2 ((holds_iff.1 hpq).trans (holds_iff.1 hqr))

theorem holds_entry (dir : Path) (name : String) : dir.holds (.entry dir name) = true := by
  rw [holds, holds_self, Bool.or_true]

theorem not_holds_parent (dir : Path) (name : String) :
    (Path.entry dir name).holds dir = false := by
  rw [Bool.eq_false_iff, ne_eq, holds_iff]
  intro h
  have := h.length_le
  rw [segments, List.length_cons] at this
  omega

/-- Two entries of one directory hold nothing in common. -/
theorem holds_sibling {dir p : Path} {a b : String} (hne : a ≠ b)
    (h : (Path.entry dir a).holds p = true) : (Path.entry dir b).holds p = false := by
  rw [Bool.eq_false_iff, ne_eq, holds_iff]
  intro hb
  have hab := List.suffix_of_suffix_length_le (holds_iff.1 h) hb
    (by simp [segments])
  have heq := hab.eq_of_length (by simp [segments])
  rw [segments, segments] at heq
  exact hne (List.cons.inj heq).1

/-- Different names in a directory are different paths. -/
theorem entry_inj {dir : Path} {a b : String} : Path.entry dir a = .entry dir b ↔ a = b := by
  simp

end Path

/-! ## Changes below a path -/

namespace FileTree

/-- Nothing outside the path differs between the trees. -/
def SameOutside (dir : Path) (s t : FileTree) : Prop :=
  ∀ p, dir.holds p = false → t.get? p = s.get? p

namespace SameOutside

variable {dir : Path} {s t u : FileTree}

theorem refl (dir : Path) (s : FileTree) : SameOutside dir s s := fun _ _ => rfl

theorem trans (hst : SameOutside dir s t) (htu : SameOutside dir t u) : SameOutside dir s u :=
  fun p hp => (htu p hp).trans (hst p hp)

end SameOutside

/-- Where there is nothing, nothing lies below. -/
theorem get?_of_holds_none {t : FileTree} {p : Path} (h : t.get? p = none) :
    ∀ {q : Path}, p.holds q = true → t.get? q = none
  | .base s, hq => by
      rw [Path.holds, beq_iff_eq] at hq
      rw [← hq, h]
  | .entry dir name, hq => by
      rw [Path.holds, Bool.or_eq_true, beq_iff_eq] at hq
      rcases hq with rfl | hq
      · exact h
      · have hdir := get?_of_holds_none h hq
        cases hnode : t.get? (.entry dir name) with
        | none => rfl
        | some node =>
            rw [get?_parent hnode] at hdir
            cases hdir

/-- What holds a directory is a directory. -/
theorem get?_of_holds_directory {t : FileTree} {q : Path} :
    ∀ {p : Path}, t.get? p = some .directory → q.holds p = true → t.get? q = some .directory
  | .base s, _, hq => by
      rw [Path.holds, beq_iff_eq] at hq
      rw [hq, get?_base]
  | .entry dir name, hp, hq => by
      rw [Path.holds, Bool.or_eq_true, beq_iff_eq] at hq
      rcases hq with rfl | hq
      · exact hp
      · exact get?_of_holds_directory (get?_parent hp) hq

/-- A node that is put into a directory stays below it. -/
theorem sameOutside_put {t : FileTree} {dir : Path} {name : String} {node : Node}
    (hdir : t.get? dir = some .directory)
    (hnode : node = .directory ∨ t.get? (.entry dir name) ≠ some .directory) :
    SameOutside dir t (t.put dir name node) := by
  intro p hp
  rw [get?_put hdir hnode, if_neg]
  rintro rfl
  rw [Path.holds_entry] at hp
  cases hp

end FileTree

end SheetStore
