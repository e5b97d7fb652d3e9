import SheetStore.Decimal.Shortest

/-!
# The text of a floating-point number

A number is written with the fewest digits that read back as it.  The digits stand around the point
if the first of them counts from `10 ^ (-5)` up to `10 ^ 15`, and there is always a digit on either
side of the point.  Greater and smaller numbers are written with an exponent, which has a sign and
two digits at least.
-/

namespace SheetStore.Decimal

/-- As many zeros. -/
def zeros (n : Nat) : String := String.ofList (List.replicate n '0')

/-- Digits around the point, of which `whole` stand before it. -/
def positional (digits : String) (whole : Int) : String :=
  if whole ≤ 0 then "0." ++ zeros (-whole).toNat ++ digits
  else
    let count := whole.toNat
    let all := digits.toList
    if all.length ≤ count then digits ++ zeros (count - all.length) ++ ".0"
    else String.ofList (all.take count) ++ "." ++ String.ofList (all.drop count)

/-- Digits with one before the point, and an exponent. -/
def scientific (digits : String) (exponent : Int) : String :=
  let mantissa := match digits.toList with
    | first :: second :: rest => String.ofList (first :: '.' :: second :: rest)
    | _ => digits
  let size := toString exponent.natAbs
  mantissa ++ (if exponent < 0 then "e-" else "e+") ++ zeros (2 - size.length) ++ size

/-- The text of a decimal number. -/
def text (d : Decimal) : String :=
  let digits := toString d.digits
  let exponent := (digits.length : Int) - 1 + d.exponent
  if -5 ≤ exponent ∧ exponent ≤ 15 then positional digits (exponent + 1)
  else scientific digits exponent

/-- The text of a finite float. -/
def ofFloat (x : Float) : String :=
  (if x.toBits.toNat < Nat.pow 2 63 then "" else "-")
    ++ if x == 0 then "0.0" else text (Binary.ofFloat x).shortest

end SheetStore.Decimal
