import SheetStore.Decimal.Text
import SheetStore.Text.Quoted

/-!
# Why a JSON text is refused

A text is refused for one of three reasons: it is no JSON, it stops before its value is complete,
or it is JSON that does not have the shape that was asked for.  Only faults of shape are put into
words.
-/

namespace SheetStore.Json

/-- A number as it is written. -/
inductive Number where
  /-- A whole number that fits into a word of 64 bits. -/
  | natural (n : Nat)
  /-- A whole number below zero that fits into a signed word, without its sign. -/
  | negative (n : Nat)
  /-- Any other number. -/
  | real (x : Float)

/-- What stands where something else was expected. -/
inductive Found where
  /-- The null value. -/
  | null
  /-- A truth value. -/
  | boolean (value : Bool)
  /-- A number. -/
  | number (n : Number)
  /-- A text. -/
  | text (s : String)
  /-- An array. -/
  | sequence
  /-- An object. -/
  | map

/-- Why a text is refused. -/
inductive Fault where
  /-- The text is no JSON. -/
  | malformed
  /-- The text stops too early. -/
  | truncated
  /-- A value is of another type than the expected one. -/
  | wrongType (found : Found) (expected : String)
  /-- A whole number is outside the expected range. -/
  | wrongValue (number : Number) (expected : String)
  /-- An array ends before all fields of a structure are given. -/
  | tooShort (length : Nat) (expected : String)
  /-- An object lacks a field. -/
  | missingField (name : String)
  /-- An object has a field twice. -/
  | duplicateField (name : String)
  /-- A text is none of the names that are allowed. -/
  | unknownVariant (name : String) (allowed : List String)

/-- The text of a number in messages. -/
def Number.text : Number → String
  | .natural n => "integer `" ++ toString n ++ "`"
  | .negative n => "integer `-" ++ toString n ++ "`"
  | .real x => "floating point `" ++ Decimal.ofFloat x ++ "`"

/-- The text in messages of what was found. -/
def Found.message : Found → String
  | .null => "null"
  | .boolean value => "boolean `" ++ toString value ++ "`"
  | .number n => n.text
  | .text s => "string " ++ Text.quote s
  | .sequence => "sequence"
  | .map => "map"

/-- The text of a fault of shape. -/
def Fault.message? : Fault → Option String
  | .malformed | .truncated => none
  | .wrongType found expected =>
      some ("invalid type: " ++ found.message ++ ", expected " ++ expected)
  | .wrongValue number expected =>
      some ("invalid value: " ++ number.text ++ ", expected " ++ expected)
  | .tooShort length expected =>
      some ("invalid length " ++ toString length ++ ", expected " ++ expected)
  | .missingField name => some ("missing field `" ++ name ++ "`")
  | .duplicateField name => some ("duplicate field `" ++ name ++ "`")
  | .unknownVariant name allowed =>
      some ("unknown variant `" ++ name ++ "`, expected "
        ++ " or ".intercalate (allowed.map fun v => "`" ++ v ++ "`"))

end SheetStore.Json
