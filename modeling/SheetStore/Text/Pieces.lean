/-!
# Text cut at a separator

`fields sep s` cuts `s` at every occurrence of `sep`, empty parts included, so that there is one
part more than there are separators.  `cut? sep s` stops at the first separator.  `lines` reads a
text file: every line ends with a line feed, which may follow a carriage return, and the last line
may lack its ending.
-/

namespace SheetStore.Text

/-! ## Cutting at every separator -/

/-- The fields of a text between the occurrences of the separator, as strings. -/
def fields (sep : Char) (s : String) : List String := (s.toList.splitOn sep).map String.ofList

/-! ## Cutting at the first separator -/

/-- The text before and after the first separator, or nothing if there is none. -/
def cut? (sep : Char) (s : List Char) : Option (List Char × List Char) :=
  match s.dropWhile (· ≠ sep) with
  | _ :: after => some (s.takeWhile (· ≠ sep), after)
  | [] => none

/-! ## Lines -/

/-- Drops one carriage return at the end. -/
def dropReturn (s : List Char) : List Char :=
  if s.getLast? = some '\r' then s.dropLast else s

/-- The lines of a text.  Only a line that ends with a line feed loses a carriage return, and an
empty end after the last line feed is no line. -/
def lines (s : String) : List String :=
  let parts := s.toList.splitOn '\n'
  let last := parts.getLast?.getD []
  (parts.dropLast.map dropReturn ++ if last.isEmpty then [] else [last]).map String.ofList

end SheetStore.Text
