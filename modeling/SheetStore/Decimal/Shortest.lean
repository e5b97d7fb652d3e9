/-!
# The shortest decimal of a binary number

A finite binary number is `m * 2 ^ q`, and a decimal is `digits * 10 ^ exponent`.  The decimals
that read back as the number are those of its rounding interval.  The interval reaches half way to
the neighbouring numbers, and its ends belong to it if `m` is even.

`shortest` walks through the grids of multiples of `10 ^ k` from the coarsest to the finest.  On a
grid only the two neighbours of the number can lie in the interval, so the first grid on which one
of them does holds the decimal with the fewest digits, and the nearer of the two is taken, the even
one on a tie.  All arithmetic is exact, on natural numbers with their own powers (`Nat.pow`).
-/

namespace SheetStore

/-- A non-negative decimal number, `digits * 10 ^ exponent`. -/
structure Decimal where
  /-- The digits, read as one number. -/
  digits : Nat
  /-- The power of ten. -/
  exponent : Int
deriving DecidableEq, Repr, Inhabited

/-- A non-negative binary number, `significand * 2 ^ exponent`. -/
structure Binary where
  /-- The factor of the power of two. -/
  significand : Nat
  /-- The power of two. -/
  exponent : Int
  /-- Whether the next smaller number is only half as far away as the next greater one. -/
  narrow : Bool
deriving DecidableEq, Repr, Inhabited

namespace Binary

/-- The magnitude of a finite float. -/
def ofFloat (x : Float) : Binary :=
  let bits : Nat := x.toBits.toNat
  let fraction : Nat := bits % Nat.pow 2 52
  let biased : Nat := bits / Nat.pow 2 52 % Nat.pow 2 11
  if biased = 0 then ⟨fraction, -1074, false⟩
  else ⟨Nat.pow 2 52 + fraction, (biased : Int) - 1075, fraction = 0 ∧ 1 < biased⟩

/-- Compares `a * 10 ^ k` with `b * 2 ^ p`. -/
def compareScaled (a : Nat) (k : Int) (b : Nat) (p : Int) : Ordering :=
  compare (a * Nat.pow 10 k.toNat * Nat.pow 2 (-p).toNat)
    (b * Nat.pow 2 p.toNat * Nat.pow 10 (-k).toNat)

/-- Whether `d * 10 ^ k` reads back as the number. -/
def readsBack (x : Binary) (k : Int) (d : Nat) : Bool :=
  let low := compareScaled d k (4 * x.significand - if x.narrow then 1 else 2) (x.exponent - 2)
  let high := compareScaled d k (4 * x.significand + 2) (x.exponent - 2)
  if x.significand % 2 = 0 then low.isGE && high.isLE else low.isGT && high.isLT

/-- The greatest multiple of `10 ^ k` that is not above the number, divided by `10 ^ k`. -/
def floorAt (x : Binary) (k : Int) : Nat :=
  x.significand * Nat.pow 2 x.exponent.toNat * Nat.pow 10 (-k).toNat
    / (Nat.pow 2 (-x.exponent).toNat * Nat.pow 10 k.toNat)

/-- The multiple of `10 ^ k` nearest to the number among those that read back as it. -/
def onGrid? (x : Binary) (k : Int) : Option Decimal :=
  let d := x.floorAt k
  match x.readsBack k d, x.readsBack k (d + 1) with
  | false, false => none
  | true, false => some ⟨d, k⟩
  | false, true => some ⟨d + 1, k⟩
  | true, true =>
      match compareScaled (2 * d + 1) k (2 * x.significand) x.exponent with
      | .gt => some ⟨d, k⟩
      | .lt => some ⟨d + 1, k⟩
      | .eq => some ⟨d + d % 2, k⟩

/-- The powers of ten that can be the last digit of a shortest decimal, the greatest first. -/
def grids : List Int := (List.range 660).map fun n => 309 - Int.ofNat n

/-- The shortest decimal that reads back as the number. -/
def shortest (x : Binary) : Decimal := (grids.findSome? x.onGrid?).getD ⟨0, 0⟩

end Binary

end SheetStore
