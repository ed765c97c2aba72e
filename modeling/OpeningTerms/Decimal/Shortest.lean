import OpeningTerms.Decimal.Binary64

/-!
# Shortest decimals

The fewest decimal digits that read back as a given number: of all powers of ten,
the largest of which some multiple still rounds to the number. Only the two
multiples next to the number can be among those, since all that round to it lie
around it without a gap; of two the nearer is taken.
-/

namespace OpeningTerms.Decimal

/-- Which of two decimals at the same distance is taken. -/
inductive Tie where
  /-- The one whose last digit is even. -/
  | toEven
  /-- The one farther from zero. -/
  | away

/-- A natural number scaled by a power of ten: `coefficient * 10 ^ exponent`. -/
structure Scaled where
  coefficient : Nat
  exponent : Int

/-- The multiple of `10 ^ p` that is taken for `x`, if one rounds to `x`. -/
def onGrid (tie : Tie) (x : Magnitude) (p : Int) : Option Nat :=
  -- All numbers are counted in quarters of a unit in the last place of `x`, and
  -- both sides are multiplied by the powers that would stand below a bar.
  let value := 4 * x.mantissa
  let below :=
    if x.mantissa = Magnitude.leastFull ∧ Magnitude.leastExponent < x.exponent then 1 else 2
  let unit := Nat.pow 2 (x.exponent - 2).toNat * Nat.pow 10 (-p).toNat
  let grid := Nat.pow 10 p.toNat * Nat.pow 2 (2 - x.exponent).toNat
  let roundsBack (k : Nat) : Bool :=
    if x.mantissa % 2 = 0 then (value - below) * unit ≤ k * grid && k * grid ≤ (value + 2) * unit
    else (value - below) * unit < k * grid && k * grid < (value + 2) * unit
  let k := value * unit / grid
  match roundsBack k, roundsBack (k + 1) with
  | false, false => none
  | true, false => some k
  | false, true => some (k + 1)
  | true, true =>
    let down := value * unit - k * grid
    let up := (k + 1) * grid - value * unit
    if down < up then some k
    else if up < down then some (k + 1)
    else match tie with
      | .toEven => some (if k % 2 = 0 then k else k + 1)
      | .away => some (k + 1)

/-- The first grid with a hit, from `10 ^ p` downwards. -/
def coarsest (tie : Tie) (x : Magnitude) : (fuel : Nat) → (p : Int) → Scaled
  | 0, p => ⟨0, p⟩
  | fuel + 1, p =>
    match onGrid tie x p with
    | some k => ⟨k, p⟩
    | none => coarsest tie x fuel (p - 1)

/-- The shortest decimal that reads back as `x`, for an `x` other than zero. The
    grids run from beyond the largest number to below the precision of the least. -/
def shortest (tie : Tie) (x : Magnitude) : Scaled := coarsest tie x 660 309

end OpeningTerms.Decimal
