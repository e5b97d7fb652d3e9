import SheetStore.Text.Property.Alphabetic
import SheetStore.Text.Property.Mark
import SheetStore.Text.Property.Number

/-!
# Word characters and identifiers

Two classes of characters are easily confused.  A *word character* may stand in a name inside a
statement: letters, marks, decimal digits, connector punctuation and the two join controls.  An
*identifier* names a database, a table or a column in a schema, and consists of letters, numbers
of every kind and the low line.  Neither class contains the other: a superscript digit is a number
and no word character, a combining accent is a word character and no number.
-/

namespace SheetStore.Text

open Property

/-- Whether a character may stand in a name inside a statement. -/
def isWordChar (c : Char) : Bool :=
  let n := c.toNat
  alphabetic.holds n || decimalDigit.holds n || connector.holds n || mark.holds n
    || n == 0x200C || n == 0x200D

/-- Whether a character is a letter or a number of any kind. -/
def isAlphanumeric (c : Char) : Bool :=
  let n := c.toNat
  alphabetic.holds n || decimalDigit.holds n || otherNumber.holds n

/-- Whether a character may stand in an identifier. -/
def isIdentifierChar (c : Char) : Bool := isAlphanumeric c || c == '_'

/-- Whether a text is an identifier: one or more identifier characters. -/
def isIdentifier (s : String) : Bool := !s.toList.isEmpty && s.toList.all isIdentifierChar

end SheetStore.Text
