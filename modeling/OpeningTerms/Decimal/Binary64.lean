/-!
# Binary floating point, exactly

The numbers of the 64-bit binary format as what they are: a natural number times
a power of two, with a sign, beside the infinities and the not-a-number. All
arithmetic is on natural numbers and ends with one rounding to the nearest
number of the format, a half going to the even neighbour (`halfEven`).
-/

namespace OpeningTerms.Decimal

/-- The natural number nearest to `num / den`; of two, the even one. -/
def halfEven (num den : Nat) : Nat :=
  let q := num / den
  let r := num % den
  if 2 * r < den then q
  else if den < 2 * r then q + 1
  else if q % 2 = 0 then q else q + 1

/-- The size of a finite number of the format: `mantissa * 2 ^ exponent`. -/
structure Magnitude where
  mantissa : Nat
  exponent : Int
deriving DecidableEq

namespace Magnitude

/-- The least exponent of the format. -/
def leastExponent : Int := -1074

/-- The largest exponent of the format. -/
def largestExponent : Int := 971

/-- Every mantissa is below this bound. -/
def mantissaBound : Nat := 0x20000000000000

/-- The least mantissa that uses all places. -/
def leastFull : Nat := 0x10000000000000

/-- The size zero. -/
def zero : Magnitude := ⟨0, leastExponent⟩

/-- The size of the format nearest to `num / den`, if that is in range. -/
def nearest (num den : Nat) : Option Magnitude :=
  if num = 0 then some zero
  else
    -- The quotient lies between `2 ^ (e - 1)` and `2 ^ (e + 1)`.
    let e : Int := (num.log2 : Int) - den.log2
    let q := max (e - 53) leastExponent
    let floorAt (q : Int) := num * Nat.pow 2 (-q).toNat / (den * Nat.pow 2 q.toNat)
    let q := if floorAt q < mantissaBound then q else q + 1
    let m := halfEven (num * Nat.pow 2 (-q).toNat) (den * Nat.pow 2 q.toNat)
    let x : Magnitude := if m = mantissaBound then ⟨leastFull, q + 1⟩ else ⟨m, q⟩
    if x.exponent ≤ largestExponent then some x else none

/-- The size nearest to `coefficient * 10 ^ exponent`, if that is in range. Powers far
    outside the range are not worked out. -/
def ofDecimal (coefficient : Nat) (exponent : Int) : Option Magnitude :=
  let leading : Int := exponent + (Nat.toDigits 10 coefficient).length
  if coefficient = 0 ∨ leading < -330 then some zero
  else if 310 < leading then none
  else nearest (coefficient * Nat.pow 10 exponent.toNat) (Nat.pow 10 (-exponent).toNat)

/-- The product, rounded. -/
def mul (x y : Magnitude) : Option Magnitude :=
  let e := x.exponent + y.exponent
  nearest (x.mantissa * y.mantissa * Nat.pow 2 e.toNat) (Nat.pow 2 (-e).toNat)

/-- The quotient, rounded. -/
def div (x y : Magnitude) : Option Magnitude :=
  let e := x.exponent - y.exponent
  nearest (x.mantissa * Nat.pow 2 e.toNat) (y.mantissa * Nat.pow 2 (-e).toNat)

end Magnitude

/-- A number of the 64-bit binary format. -/
inductive Binary64 where
  | finite (negative : Bool) (size : Magnitude)
  | infinite (negative : Bool)
  | nan
deriving DecidableEq

end OpeningTerms.Decimal
