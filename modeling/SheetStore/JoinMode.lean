/-!
# How conditions over several tables are enforced

A selection filters the rows of each table on its own and then forms their product.  The mode says
whether the rows of the product are checked against the condition once more.
-/

namespace SheetStore

/-- How the condition of a selection over several tables is enforced. -/
inductive JoinMode where
  /-- The rows of the product have to satisfy the condition. -/
  | joined
  /-- The rows of each table are filtered, and nothing else.  A comparison on another table counts
  as satisfied there, so rows of the product may violate the condition. -/
  | perTable
deriving DecidableEq, Repr, Inhabited

end SheetStore
