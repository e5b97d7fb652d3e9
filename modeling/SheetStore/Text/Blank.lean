import SheetStore.Text.Ranges

/-!
# Blank characters and the trimming of text

A *blank* is a character with the Unicode property White Space.  Statements and conditions are
separated by runs of blanks and lose the blanks at both of their ends.  `strip` removes from both
ends what a predicate accepts, `trim` is `strip` for blanks.

All functions here work on lists of characters.  `dropWhileEnd` does at the end of a list what
`List.dropWhile` does at its start.
-/

namespace SheetStore.Text

/-! ## The class -/

/-- The code points of White Space. -/
def blanks : Ranges :=
  [(0x9, 0xD), (0x20, 0x20), (0x85, 0x85), (0xA0, 0xA0), (0x1680, 0x1680), (0x2000, 0x200A),
    (0x2028, 0x2029), (0x202F, 0x202F), (0x205F, 0x205F), (0x3000, 0x3000)]

/-- Whether a character is blank. -/
def isBlank (c : Char) : Bool := blanks.holds c.toNat

/-! ## Trimming -/

/-- Drops the longest end of the list on which the predicate holds. -/
def dropWhileEnd (p : α → Bool) (s : List α) : List α := (s.reverse.dropWhile p).reverse

/-- Drops what the predicate accepts from both ends. -/
def strip (p : α → Bool) (s : List α) : List α := dropWhileEnd p (s.dropWhile p)

/-- Drops the blanks at the start. -/
def dropBlanks (s : List Char) : List Char := s.dropWhile isBlank

/-- Drops the blanks at the end. -/
def trimEnd (s : List Char) : List Char := dropWhileEnd isBlank s

/-- Drops the blanks at both ends. -/
def trim (s : List Char) : List Char := strip isBlank s

/-- The rest after a run of one or more blanks, or nothing if the text starts with none. -/
def blankRun? : List Char → Option (List Char)
  | [] => none
  | c :: rest => if isBlank c then some (dropBlanks rest) else none

end SheetStore.Text
