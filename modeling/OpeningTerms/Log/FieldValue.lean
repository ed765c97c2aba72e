import OpeningTerms.Pattern.Reader

/-!
# Values of fields

A filter may name the value that a field should have: a truth value, a number, or else a
pattern that the value should match. Truth values are patterns, too, and so are most of
the numbers, but not those with a plus sign in front.
-/

namespace OpeningTerms.Log

open OpeningTerms.Text

/-- The names of the numbers that have no digits, in small letters. -/
def namedNumbers : List String := ["inf", "infinity", "nan"]

/-- A text without the sign in front. -/
def dropSign (s : List Char) : List Char :=
  if s.head? = some '+' ∨ s.head? = some '-' then s.drop 1 else s

/-- Whether a text is empty or an exponent. -/
def isExponent : List Char → Bool
  | [] => true
  | c :: s =>
    let ds := dropSign s
    (c == 'e' || c == 'E') && ds ≠ [] && ds.all isDecimal

/-- Whether a text is a number. There may be no digits on one side of the point. -/
def isNumber (s : List Char) : Bool :=
  let s := dropSign s
  let whole := s.takeWhile isDecimal
  let rest := s.dropWhile isDecimal
  let fraction := if rest.head? = some '.' then (rest.drop 1).takeWhile isDecimal else []
  let rest := if rest.head? = some '.' then (rest.drop 1).dropWhile isDecimal else rest
  namedNumbers.contains (.ofList (s.map Char.toLower)) ||
    (whole ≠ [] || fraction ≠ []) && isExponent rest

/-- What is wrong with the value that a field should have. -/
def valueFault? (s : List Char) : Option Pattern.Fault :=
  if isNumber s then none else Pattern.fault? s

end OpeningTerms.Log
