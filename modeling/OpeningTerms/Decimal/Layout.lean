import OpeningTerms.Decimal.Shortest

/-!
# The written form of a number

A number is written with the fewest digits that read back, either positionally or
with an exponent. Which of the two, and which decimal is taken between two
equally near ones, is the business of the format: it is given as a `Layout`.
-/

namespace OpeningTerms.Decimal

/-- The decisions of a format. -/
structure Layout where
  /-- What is done with an exact half. -/
  tie : Tie
  /-- The powers of ten of the first digit for which the number is written
      positionally, least and largest; all of them if there is no such range. -/
  positional : Option (Int × Int)

/-- Digits with the point after the place of `10 ^ 0`, `lead` being the power of ten
    of the first digit. A whole number gets a zero behind the point. -/
def positionalText (digits : List Char) (lead : Int) : List Char :=
  if lead < 0 then ['0', '.'] ++ List.replicate (-lead - 1).toNat '0' ++ digits
  else
    let whole := lead.toNat + 1
    if digits.length ≤ whole then
      digits ++ List.replicate (whole - digits.length) '0' ++ ['.', '0']
    else digits.take whole ++ ['.'] ++ digits.drop whole

/-- Digits with the point after the first one, and the power of ten behind, with its
    sign. -/
def exponentText (digits : List Char) (lead : Int) : List Char :=
  let fraction := match digits.drop 1 with
    | [] => []
    | ds => '.' :: ds
  digits.take 1 ++ fraction ++ ['e', if lead < 0 then '-' else '+'] ++
    Nat.toDigits 10 lead.natAbs

/-- The text of the size of a finite number. -/
def Layout.size (l : Layout) (x : Magnitude) : List Char :=
  if x.mantissa = 0 then ['0', '.', '0']
  else
    let d := shortest l.tie x
    let digits := Nat.toDigits 10 d.coefficient
    let lead := d.exponent + digits.length - 1
    let isPositional := match l.positional with
      | none => true
      | some (least, largest) => decide (least ≤ lead ∧ lead ≤ largest)
    if isPositional then positionalText digits lead else exponentText digits lead

/-- The text of a number. -/
def Layout.text (l : Layout) : Binary64 → String
  | .finite negative x => .ofList ((if negative then ['-'] else []) ++ l.size x)
  | .infinite negative => if negative then "-inf" else "inf"
  | .nan => "NaN"

end OpeningTerms.Decimal
