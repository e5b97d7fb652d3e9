import SheetStore.Files.Tree

/-!
# File operations

The operations of a file system on a file tree.  Each answers a new tree or the cause of its
failure, and a failure changes nothing, since the tree is a value.  Where there is nothing at a
path, the nearest thing above it decides the cause: below a file it is `notADirectory`, below a
directory `notFound` (`FileTree.missing`).
-/

namespace SheetStore.FileTree

/-! ## Reading -/

/-- Why there is nothing at a path. -/
def missing (t : FileTree) : Path → FileError
  | .base _ => .notFound
  | .entry dir _ =>
      match t.get? dir with
      | some .directory => .notFound
      | some (.file _) => .notADirectory
      | none => t.missing dir

/-- The bytes of a file. -/
def read (t : FileTree) (p : Path) : Except FileError ByteArray :=
  match t.get? p with
  | some (.file contents) => .ok contents
  | some .directory => .error .isADirectory
  | none => .error (t.missing p)

/-- The text of a file. -/
def readText (t : FileTree) (p : Path) : Except FileError String :=
  match t.read p with
  | .error cause => .error cause
  | .ok contents =>
      match String.fromUTF8? contents with
      | some text => .ok text
      | none => .error .notText

/-- The entries of a directory, each with its node. -/
def list (t : FileTree) (p : Path) : Except FileError (List (String × Node)) :=
  match t.get? p with
  | some .directory =>
      .ok (t.entries.toList.filterMap fun
        | (.entry dir name, node) => if dir = p then some (name, node) else none
        | (.base _, _) => none)
  | some (.file _) => .error .notADirectory
  | none => .error (t.missing p)

/-! ## Writing -/

/-- Makes a file with the given bytes, or replaces the bytes of the file that is there. -/
def write (t : FileTree) (p : Path) (contents : ByteArray) : Except FileError FileTree :=
  match p with
  | .base _ => .error .isADirectory
  | .entry dir name =>
      if t.isDirectory (.entry dir name) then .error .isADirectory
      else if t.isDirectory dir then .ok (t.put dir name (.file contents))
      else .error (t.missing (.entry dir name))

/-- Adds bytes at the end of a file that is there. -/
def append (t : FileTree) (p : Path) (more : ByteArray) : Except FileError FileTree :=
  match t.read p with
  | .error cause => .error cause
  | .ok contents => t.write p (contents ++ more)

/-- Moves a file to another path, over the file that is there. -/
def rename (t : FileTree) (source target : Path) : Except FileError FileTree :=
  match t.read source with
  | .error cause => .error cause
  | .ok contents =>
      match t.write target contents with
      | .error cause => .error cause
      | .ok t' => .ok (if source = target then t' else t'.drop source)

/-- Makes a directory, and every directory above it that is missing. -/
def createDirAll (t : FileTree) : Path → Except FileError FileTree
  | .base _ => .ok t
  | .entry dir name =>
      match t.get? (.entry dir name) with
      | some .directory => .ok t
      | some (.file _) => .error .alreadyExists
      | none =>
          match t.createDirAll dir with
          | .ok t' => .ok (t'.put dir name .directory)
          | .error .alreadyExists => .error .notADirectory
          | .error cause => .error cause

/-- Removes a directory with everything in it. -/
def removeDirAll (t : FileTree) (p : Path) : Except FileError FileTree :=
  match t.get? p with
  | some .directory => .ok (t.dropAll p)
  | some (.file _) => .error .notADirectory
  | none => .error (t.missing p)

/-! ## The view after an operation -/

/-- Writing changes the file at the path and nothing else. -/
theorem get?_of_write {t t' : FileTree} {p : Path} {contents : ByteArray}
    (h : t.write p contents = .ok t') (q : Path) :
    t'.get? q = if q = p then some (.file contents) else t.get? q := by
  cases p with
  | base => cases h
  | entry dir name =>
      simp only [write] at h
      split at h
      · cases h
      · rename_i hp
        split at h
        · rename_i hdir
          cases h
          exact get?_put (isDirectory_iff.1 hdir) (.inr (mt isDirectory_iff.2 hp)) q
        · cases h

/-- What is written can be read. -/
theorem read_of_write {t t' : FileTree} {p : Path} {contents : ByteArray}
    (h : t.write p contents = .ok t') : t'.read p = .ok contents := by
  simp [read, get?_of_write h]

/-- Renaming moves the contents of a file and changes nothing else. -/
theorem get?_of_rename {t t' : FileTree} {source target : Path}
    (h : t.rename source target = .ok t') :
    ∃ contents, t.get? source = some (.file contents) ∧ ∀ q, t'.get? q =
      if q = target then some (.file contents) else if q = source then none else t.get? q := by
  unfold rename at h
  split at h
  · cases h
  · rename_i contents hread
    have hsource : t.get? source = some (.file contents) := by
      unfold read at hread
      split at hread <;> cases hread
      assumption
    refine ⟨contents, hsource, fun q => ?_⟩
    split at h
    · cases h
    · rename_i written hwrite
      cases h
      have hview := get?_of_write hwrite
      split
      · rename_i heq
        subst heq
        rw [hview q]
        by_cases hq : q = source <;> simp [hq]
      · rename_i hne
        have hnot : written.get? source ≠ some .directory := by
          rw [hview, if_neg hne, hsource]
          simp
        rw [get?_drop hnot, hview]
        by_cases hq : q = source
        · simp [hq, hne]
        · simp [hq]

end SheetStore.FileTree
