import OpeningTerms.Json.Value
import OpeningTerms.Text.Digit

/-!
# JSON numbers

A number is an integer if it is written as one and has at most 64 bits; a minus
sign in front of zero makes it a float. Any other number is a float, found from as
many leading digits as 64 bits hold and one multiplication or division by a power
of ten, each step rounded. That is not always the nearest float.
-/

namespace OpeningTerms.Json

open OpeningTerms.Text OpeningTerms.Decimal

/-- One more than the largest significand. -/
def significandBound : Nat := UInt64.size

/-- The digits of a whole part, or of a fraction, taken into a significand while it has
    room: the new significand, and the digits left over from the first that has none. -/
def absorb : (significand : Nat) → List Char → Nat × List Char
  | s, [] => (s, [])
  | s, c :: ds =>
    let s' := 10 * s + ofDigits 10 [c]
    if s' < significandBound then absorb s' ds else (s, c :: ds)

/-- The largest power of ten that one step multiplies or divides by. -/
def powerReach : Nat := 308

/-- A size divided by `10 ^ e`, rounding twice. -/
def divideBy (e : Nat) (x : Magnitude) : Option Magnitude :=
  (Magnitude.ofDecimal 1 e).bind x.div

/-- A significand times a power of ten. What lies far below the format is first divided
    by the largest power, as often as it takes to come into reach or to vanish. -/
def scale (x : Magnitude) (e : Int) : Option Magnitude :=
  if x.mantissa = 0 then some x
  else if powerReach < e then none
  else if 0 ≤ e then (Magnitude.ofDecimal 1 e).bind x.mul
  else if -e ≤ powerReach then divideBy e.natAbs x
  else (divideBy powerReach x).bind fun y => scale y (e + powerReach)
termination_by e.natAbs
decreasing_by
  simp only [powerReach] at *
  omega

/-- The float of a sign, a significand and a power of ten. -/
def floatOf (negative : Bool) (significand : Nat) (e : Int) : Number :=
  match (Magnitude.ofDecimal significand 0).bind (scale · e) with
  | some x => .float (.finite negative x)
  | none => .overflow

/-- The exponent in front of a text, with what follows it: zero if there is none. -/
def exponent? : List Char → Option (Int × List Char)
  | c :: r =>
    if c = 'e' ∨ c = 'E' then
      let (negative, r) : Bool × List Char := match r with
        | '-' :: r => (true, r)
        | '+' :: r => (false, r)
        | r => (false, r)
      let ds := r.takeWhile isDecimal
      if ds = [] then none
      else
        let n : Int := ofDigits 10 ds
        some (if negative then -n else n, r.dropWhile isDecimal)
    else some (0, c :: r)
  | [] => some (0, [])

/-- The number that an integer's digits stand for. -/
def integerOf (negative : Bool) (digits : List Char) : Number :=
  let (s, left) := absorb 0 digits
  if left ≠ [] then floatOf negative s left.length
  else if !negative then .integer s
  else if s = 0 ∨ 0x8000000000000000 < s then floatOf true s 0
  else .integer (-s)

/-- A number in front of a text, after its sign, and what follows it. -/
def unsigned? (negative : Bool) (s : List Char) : Option (Number × List Char) :=
  let whole := s.takeWhile isDecimal
  let rest := s.dropWhile isDecimal
  if whole = [] ∨ (whole.head? = some '0' ∧ whole.length ≠ 1) then none
  else
    match rest with
    | '.' :: r =>
      let fraction := r.takeWhile isDecimal
      if fraction = [] then none
      else
        let (s, left) := absorb 0 whole
        let (s', left') := absorb s fraction
        let places : Int := left.length - (fraction.length - left'.length : Nat)
        (exponent? (r.dropWhile isDecimal)).map fun (e, rest) =>
          (floatOf negative s' (places + e), rest)
    | c :: r =>
      if c = 'e' ∨ c = 'E' then
        let (s, left) := absorb 0 whole
        (exponent? (c :: r)).map fun (e, rest) => (floatOf negative s (left.length + e), rest)
      else some (integerOf negative whole, rest)
    | [] => some (integerOf negative whole, [])

/-- A number in front of a text, and what follows it. -/
def number? : List Char → Option (Number × List Char)
  | '-' :: r => unsigned? true r
  | s => unsigned? false s

end OpeningTerms.Json
