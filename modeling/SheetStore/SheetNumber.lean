import SheetStore.Text.Numeral

/-!
# Sheet numbers

The sheets of a table are numbered from one, and each is kept in a file named after its number.
Numbers are given out in order and never given out again.  `SheetNumber.ofFileName?` tells the files
that are sheets from all others; a numeral with leading zeros names a sheet too.
-/

namespace SheetStore

/-- The number of a sheet in its table. -/
abbrev SheetNumber := Nat

namespace SheetNumber

/-- The number of the first sheet. -/
def first : SheetNumber := 1

/-- The number after this one. -/
def next (n : SheetNumber) : SheetNumber := n + 1

/-- The name of the file of a sheet. -/
def fileName (n : SheetNumber) : String := toString n ++ ".csv"

/-- The number of the sheet that a file holds, if it holds one. -/
def ofFileName? (name : String) : Option SheetNumber :=
  let s := name.toList
  if s.drop (s.length - 4) = ['.', 'c', 's', 'v'] then
    (Text.word? (s.take (s.length - 4))).filter (0 < ·)
  else none

/-- Puts a number in front of the first one that is not less. -/
def insertAscending (n : SheetNumber) : List SheetNumber → List SheetNumber
  | [] => [n]
  | m :: rest => if n ≤ m then n :: m :: rest else m :: insertAscending n rest

/-- The numbers in ascending order, each as often as it is given. -/
def ascending (numbers : List SheetNumber) : List SheetNumber := numbers.foldr insertAscending []

end SheetNumber

end SheetStore
