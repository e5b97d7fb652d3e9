import SheetStore.Files.Tree

/-!
# Changes between file trees

What has to be done to a file system that holds one tree so that it holds another one.  A directory
that is gone in the second tree is left in place, and only its files are removed.
-/

namespace SheetStore.FileTree

/-- A change to a file system. -/
inductive Change where
  /-- A file is to be removed. -/
  | remove (path : Path)
  /-- A directory is to be made. -/
  | makeDirectory (path : Path)
  /-- A file is to be made or to get new contents. -/
  | write (path : Path) (contents : ByteArray)

/-- The change that removes a file which is gone. -/
def removal? (after : FileTree) : Path × Node → Option Change
  | (p, .file _) => if after.contains p then none else some (.remove p)
  | (_, .directory) => none

/-- The change that makes a directory which is new. -/
def newDirectory? (before : FileTree) : Path × Node → Option Change
  | (p, .directory) => if before.isDirectory p then none else some (.makeDirectory p)
  | (_, .file _) => none

/-- The change that brings the contents of a file which is new or different. -/
def newContents? (before : FileTree) : Path × Node → Option Change
  | (p, .file contents) =>
      if before.get? p = some (.file contents) then none else some (.write p contents)
  | (_, .directory) => none

/-- The changes that lead from one tree to another: what has to go, then the directories, then the
files in them. -/
def changes (before after : FileTree) : List Change :=
  before.entries.toList.filterMap after.removal?
    ++ after.entries.toList.filterMap before.newDirectory?
    ++ after.entries.toList.filterMap before.newContents?

end SheetStore.FileTree
