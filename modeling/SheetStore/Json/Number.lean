import SheetStore.Json.Fault
import SheetStore.Text.Numeral

/-!
# Reading JSON numbers

A number is a sign, whole digits, and perhaps a fraction and an exponent.  A whole number is kept
exactly if it fits into a word, and every other number becomes a float.

The float is computed from the digits that fit into a word together, read from the left, and a
power of ten for the rest.  It is scaled by one multiplication or division, so it is not always
the float nearest to the number.  A number too great for a float is refused, and one too small
becomes zero.
-/

namespace SheetStore.Json

/-- A number in parts. -/
structure Numeral where
  /-- Whether a minus sign stands in front. -/
  negative : Bool
  /-- The digits before the point. -/
  whole : List Char
  /-- The digits after the point, if there is one. -/
  fraction : Option (List Char)
  /-- The exponent, if there is one: whether it is negative, and its digits. -/
  exponent : Option (Bool × List Char)

/-- The leading digits of a number that fit into a word, and the power of ten for the rest. -/
structure Scaled where
  /-- The leading digits. -/
  significand : Nat
  /-- The power of ten. -/
  power : Int

/-- Whether another digit still fits into a word. -/
def fits (n : Nat) (digit : Char) : Bool := Text.digitsValue n [digit] < Text.wordBound

/-- Takes digits as long as they fit into a word, and answers those that are left. -/
def takeDigits (n : Nat) : List Char → Nat × List Char
  | [] => (n, [])
  | c :: rest =>
      if fits n c then takeDigits (Text.digitsValue n [c]) rest else (n, c :: rest)

/-- The digits of a number on both sides of its point. -/
def scaled (whole fraction : List Char) : Scaled :=
  let (n, left) := takeDigits 0 whole
  let (m, dropped) := takeDigits n fraction
  ⟨m, (left.length : Int) - (fraction.length - dropped.length : Nat)⟩

/-- A power of ten as a float. -/
def powerOfTen (k : Nat) : Float := Float.ofScientific 1 false k

/-- A float divided by a power of ten, in steps of at most `10 ^ 308`. -/
def divideByPower (x : Float) (k : Nat) : Float :=
  if k ≤ 308 then x / powerOfTen k
  else if x == 0 then x
  else divideByPower (x / powerOfTen 308) (k - 308)
termination_by k
decreasing_by omega

/-- The float of a scaled number, or nothing if it is too great. -/
def Scaled.float? (s : Scaled) : Option Float :=
  let x := (UInt64.ofNat s.significand).toFloat
  if s.power < 0 then some (divideByPower x s.power.natAbs)
  else if s.power ≤ 308 then
    let y := x * powerOfTen s.power.natAbs
    if y.isInf then none else some y
  else if x == 0 then some x
  else none

/-- The greatest exponent that is read. -/
def exponentBound : Nat := Nat.pow 2 31

namespace Numeral

/-- The magnitude of the number as a float, or nothing if it is too great. -/
def magnitude? (n : Numeral) : Option Float :=
  let s := scaled n.whole (n.fraction.getD [])
  match n.exponent with
  | none => s.float?
  | some (down, digits) =>
      let e := Text.digitsValue 0 digits
      if e < exponentBound then
        Scaled.float? ⟨s.significand, if down then s.power - e else s.power + e⟩
      else if s.significand != 0 && !down then none
      else some 0

/-- The number as a float, or nothing if it is too great. -/
def real? (n : Numeral) : Option Number :=
  n.magnitude?.map fun x => .real (if n.negative then -x else x)

/-- The number, or nothing if it is too great.  A negative zero is a float. -/
def number? (n : Numeral) : Option Number :=
  if n.fraction.isNone && n.exponent.isNone then
    let value := Text.digitsValue 0 n.whole
    if Text.wordBound ≤ value then n.real?
    else if !n.negative then some (.natural value)
    else if value != 0 && value ≤ Nat.pow 2 63 then some (.negative value)
    else n.real?
  else n.real?

end Numeral

end SheetStore.Json
