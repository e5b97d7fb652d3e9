import SheetStore.Text.Property.Unprintable
import SheetStore.Text.Property.GraphemeExtend

/-!
# Quoted text

Messages show text taken from files between double quotes, so that the message stays on one line
and every character can be told.  The quote and the backslash are escaped with a backslash, line
feed, carriage return, tab and NUL by their letters, and every other character that has no form of
its own, or only changes the one before it, by its code point in hexadecimal.
-/

namespace SheetStore.Text

open Property

/-- Whether a character is shown by its code point. -/
def isHidden (c : Char) : Bool := unprintable.holds c.toNat || graphemeExtend.holds c.toNat

/-- The code point of a character in hexadecimal between braces, with the letter `u` in front. -/
def codePointEscape (c : Char) : List Char :=
  ['\\', 'u', '\x7b'] ++ Nat.toDigits 16 c.toNat ++ ['\x7d']

/-- A character as it stands in quoted text. -/
def escape (c : Char) : List Char :=
  match c with
  | '"' => ['\\', '"']
  | '\\' => ['\\', '\\']
  | '\n' => ['\\', 'n']
  | '\r' => ['\\', 'r']
  | '\t' => ['\\', 't']
  | '\x00' => ['\\', '0']
  | c => if isHidden c then codePointEscape c else [c]

/-- A text between double quotes. -/
def quote (s : String) : String :=
  String.ofList ('"' :: s.toList.flatMap escape ++ ['"'])

/-- A list of texts between brackets, each quoted. -/
def quoteList (items : List String) : String :=
  "[" ++ ", ".intercalate (items.map quote) ++ "]"

end SheetStore.Text
