import SheetStore.Json.Number

/-!
# JSON tokens

A JSON text is read as a list of tokens: the six signs of its structure, and the values that have
no parts.  The tokens are listed up to the first flaw in the text, so what stands behind a flaw is
never looked at, and the end of the list is the end of the text.

A flawed value is a token of its own, since it depends on the reader what becomes of it.  A reader
that wants the value, or its type, refuses it with one fault.  A reader that skips the value, since
nobody asked for it, may refuse it with another one, or pass over it: it accepts numbers of every
size and escapes that stand for half a character.
-/

namespace SheetStore.Json

/-- A token of a JSON text. -/
inductive Token where
  /-- The brace that begins an object. -/
  | openObject
  /-- The brace that ends an object. -/
  | closeObject
  /-- The bracket that begins an array. -/
  | openArray
  /-- The bracket that ends an array. -/
  | closeArray
  /-- The sign between a name and its value. -/
  | colon
  /-- The sign between two items or members. -/
  | comma
  /-- The null value. -/
  | null
  /-- A truth value. -/
  | boolean (value : Bool)
  /-- A number. -/
  | number (n : Number)
  /-- A text without its quotes and escapes. -/
  | text (s : String)
  /-- A value that cannot be read: whether it is a text, the fault for a reader that wants it, and
  the fault for one that skips it, if that refuses it at all. -/
  | flawed (isText : Bool) (wanted : Fault) (skipped : Option Fault)

namespace Token

/-! ## Texts -/

/-- A text that stops before its closing quote. -/
def openText (whole : Bool) : Token :=
  .flawed true (if whole then .truncated else .malformed) (some .truncated)

/-- A text that no reader accepts. -/
def badText : Token := .flawed true .malformed (some .malformed)

/-- The token of a text from its characters in reverse, which is flawed if an escape in it stands
for half a character. -/
def closedText (whole : Bool) (passed : List Char) : Token :=
  if whole then .text (String.ofList passed.reverse) else .flawed true .malformed none

/-- The character of a backslash followed by a letter or a sign. -/
def escaped? : Char → Option Char
  | '"' => some '"'
  | '\\' => some '\\'
  | '/' => some '/'
  | 'b' => some '\x08'
  | 'f' => some '\x0c'
  | 'n' => some '\n'
  | 'r' => some '\r'
  | 't' => some '\t'
  | _ => none

/-- The value of a hexadecimal digit. -/
def hexDigit? (c : Char) : Option Nat :=
  if c.isDigit then some (c.toNat - '0'.toNat)
  else if 'a' ≤ c && c ≤ 'f' then some (c.toNat - 'a'.toNat + 10)
  else if 'A' ≤ c && c ≤ 'F' then some (c.toNat - 'A'.toNat + 10)
  else none

/-- The value of hexadecimal digits. -/
def hexValue? (digits : List Char) : Option Nat :=
  digits.foldl (fun n c => n.bind fun n => (hexDigit? c).map (16 * n + ·)) (some 0)

/-- The number of bytes that the characters take in a file. -/
def byteCount (s : List Char) : Nat := (String.ofList s).utf8ByteSize

/-- The character of two halves. -/
def joinHalves (high low : Nat) : Char :=
  Char.ofNat ((high - 0xD800) * 0x400 + (low - 0xDC00) + 0x10000)

/-- Reads a text after its opening quote.  `passed` holds its characters so far in reverse, `high`
the first half of a character whose second half has to follow, and `whole` says that no half was
without its partner up to here. -/
def scanText (passed : List Char) (high : Option Nat) (whole : Bool) :
    List Char → Token × List Char
  | [] => (openText whole, [])
  | ['\\'] => (openText whole, [])
  | '\\' :: 'u' :: a :: b :: c :: d :: rest =>
      match hexValue? [a, b, c, d], high with
      | none, _ => (badText, [])
      | some n, some h =>
          if 0xDC00 ≤ n && n < 0xE000 then scanText (joinHalves h n :: passed) none whole rest
          else scanText passed none false rest
      | some n, none =>
          if 0xD800 ≤ n && n < 0xDC00 then scanText passed (some n) whole rest
          else if 0xDC00 ≤ n && n < 0xE000 then scanText passed none false rest
          else scanText (Char.ofNat n :: passed) none whole rest
  | '\\' :: 'u' :: rest => (if byteCount rest < 4 then openText whole else badText, [])
  | '\\' :: c :: rest =>
      match escaped? c with
      | some e => scanText (e :: passed) none (whole && high.isNone) rest
      | none => (badText, [])
  | '"' :: rest => (closedText (whole && high.isNone) passed, rest)
  | c :: rest =>
      if c.toNat < 0x20 then (badText, [])
      else scanText (c :: passed) none (whole && high.isNone) rest

/-! ## Numbers -/

/-- Digits that have to follow at the end of a text, or elsewhere. -/
def missingDigits (rest : List Char) : Token × List Char :=
  (.flawed false (if rest.isEmpty then .truncated else .malformed) (some .malformed), [])

/-- The token of a number. -/
def ofNumeral (n : Numeral) : Token :=
  match n.number? with
  | some value => .number value
  | none => .flawed false .malformed none

/-- Reads the exponent of a number, if there is one. -/
def scanExponent (withExponent : Option (Bool × List Char) → Numeral) (s : List Char) :
    Token × List Char :=
  match s with
  | c :: rest =>
      if c = 'e' || c = 'E' then
        let (down, rest) := match rest with
          | '-' :: rest => (true, rest)
          | '+' :: rest => (false, rest)
          | rest => (false, rest)
        let digits := rest.takeWhile Char.isDigit
        if digits.isEmpty then missingDigits rest
        else (ofNumeral (withExponent (some (down, digits))), rest.dropWhile Char.isDigit)
      else (ofNumeral (withExponent none), c :: rest)
  | [] => (ofNumeral (withExponent none), [])

/-- Reads a number after its sign. -/
def scanNumber (negative : Bool) (s : List Char) : Token × List Char :=
  let whole := s.takeWhile Char.isDigit
  let rest := s.dropWhile Char.isDigit
  if whole.isEmpty then missingDigits rest
  else if 1 < whole.length && whole.head? = some '0' then
    (.flawed false .malformed (some .malformed), [])
  else
    match rest with
    | '.' :: rest =>
        let fraction := rest.takeWhile Char.isDigit
        let rest := rest.dropWhile Char.isDigit
        if fraction.isEmpty then missingDigits rest
        else scanExponent (⟨negative, whole, some fraction, ·⟩) rest
    | rest => scanExponent (⟨negative, whole, none, ·⟩) rest

/-! ## Words -/

/-- Reads the rest of a word that stands for the token. -/
def scanWord (token : Token) : List Char → List Char → Token × List Char
  | [], rest => (token, rest)
  | _ :: _, [] => (.flawed false .truncated (some .truncated), [])
  | k :: word, c :: rest =>
      if c = k then scanWord token word rest
      else (.flawed false .malformed (some .malformed), [])

/-! ## The whole text -/

/-- Whether a character may stand between tokens. -/
def isSpace (c : Char) : Bool := c == ' ' || c == '\n' || c == '\t' || c == '\r'

/-- Reads the token that begins with a character. -/
def scanOne (c : Char) (rest : List Char) : Token × List Char :=
  match c with
  | '\x7b' => (.openObject, rest)
  | '\x7d' => (.closeObject, rest)
  | '[' => (.openArray, rest)
  | ']' => (.closeArray, rest)
  | ':' => (.colon, rest)
  | ',' => (.comma, rest)
  | '"' => scanText [] none true rest
  | 'n' => scanWord .null ['u', 'l', 'l'] rest
  | 't' => scanWord (.boolean true) ['r', 'u', 'e'] rest
  | 'f' => scanWord (.boolean false) ['a', 'l', 's', 'e'] rest
  | '-' => scanNumber true rest
  | c =>
      if c.isDigit then scanNumber false (c :: rest)
      else (.flawed false .malformed (some .malformed), [])

/-- Whether no reader gets past the token. -/
def isFinal : Token → Bool
  | .flawed _ _ (some _) => true
  | _ => false

/-- Reads at most so many tokens. -/
def scanMany : Nat → List Char → List Token
  | 0, _ => []
  | n + 1, s =>
      match s.dropWhile isSpace with
      | [] => []
      | c :: rest =>
          let (token, rest) := scanOne c rest
          if token.isFinal then [token] else token :: scanMany n rest

/-- The tokens of a text.  Each takes one character at least, so there are no more of them than
characters. -/
def ofText (s : String) : List Token := scanMany s.length s.toList

end Token

end SheetStore.Json
