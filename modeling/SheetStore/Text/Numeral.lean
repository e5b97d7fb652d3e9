/-!
# Decimal numerals

A numeral is a non-empty run of the digits `0` to `9`, leading zeros allowed.  The numbers kept in
files are words of 64 bits, so `word?` reads a numeral only up to `wordBound`.
-/

namespace SheetStore.Text

/-- The least number that does not fit into a word of 64 bits. -/
def wordBound : Nat := Nat.pow 2 64

/-- The number that a run of digits extends, read from the left. -/
def digitsValue (n : Nat) (s : List Char) : Nat :=
  s.foldl (fun n c => 10 * n + (c.toNat - '0'.toNat)) n

/-- The number a numeral stands for. -/
def numeral? (s : List Char) : Option Nat :=
  if !s.isEmpty && s.all Char.isDigit then some (digitsValue 0 s) else none

/-- The number a numeral stands for, if it fits into a word. -/
def word? (s : List Char) : Option Nat := (numeral? s).filter (· < wordBound)

/-- Like `word?`, and a plus sign may stand in front. -/
def signedWord? : List Char → Option Nat
  | '+' :: s => word? s
  | s => word? s

end SheetStore.Text
