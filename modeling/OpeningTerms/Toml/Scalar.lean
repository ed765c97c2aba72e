import OpeningTerms.Toml.Document
import OpeningTerms.Toml.Moment

/-!
# Values written as a word

Truth values, numbers, dates and times are written without quotes. Digits may be
grouped by single underscores, and an underscore may follow the sign. A number in base
ten does not begin with a needless zero, except behind such an underscore; one in
another base has a lower-case mark of its base and no sign.

Of an integer with underscores only their places are examined: each stands between two
hexadecimal digits. If the rest is no number in its base, it is read as a number beyond
every range, and so is a mark of a base without any digit after it.
-/

namespace OpeningTerms.Toml

open OpeningTerms.Text OpeningTerms.Decimal

/-- A sign, if there is one, and what follows it. -/
def signed : List Char → Option Char × List Char
  | '+' :: r => (some '+', r)
  | '-' :: r => (some '-', r)
  | s => (none, s)

/-! ## Grouped digits -/

/-- Whether every underscore stands between two digits, the digits being those that
    satisfy `p`. The flag says whether one may also stand in front of all. -/
def isSpaced (p : Char → Bool) : Bool → List Char → Bool
  | _, [] => true
  | before, c :: r =>
    if c = '_' then before && r.head?.any p && isSpaced p false r else isSpaced p (p c) r

/-- A text without its underscores. -/
def ungrouped (s : List Char) : List Char := s.filter (· ≠ '_')

/-- Whether a number begins with a zero that it does not need. -/
def hasNeedlessZero (s : List Char) : Bool :=
  s.head? = some '0' && 1 < (ungrouped s).length

/-- A character of a run of grouped digits. -/
def isGrouped (c : Char) : Bool := isDecimal c || c == '_'

/-! ## Integers -/

/-- The integer with the given digits in a base, if these are digits. -/
def integerOf (base : Nat) (negative : Bool) (ds : List Char) : Document :=
  if ds ≠ [] ∧ ds.all (isDigitOf base) then
    let n : Int := ofDigits base ds
    .ofInteger (if negative then -n else n)
  else .overflow .integer

/-- An integer in base ten. -/
def decimalInteger? (s : List Char) : Option Document :=
  let (sign, body) := signed s
  if body ≠ [] ∧ isSpaced (isDigitOf 16) sign.isSome body ∧ !hasNeedlessZero body then
    some (integerOf 10 (sign = some '-') (ungrouped body))
  else none

/-- A natural number in the base of its mark. -/
def markedInteger? (base : Nat) (s : List Char) : Option Document :=
  if s.all (fun c => isDigitOf base c || c == '_') && isSpaced (isDigitOf base) false s then
    some (integerOf base false (ungrouped s))
  else none

/-! ## Numbers with a fraction or an exponent -/

/-- The power of ten that the end of a number names: nothing, or an exponent. -/
def exponent? : List Char → Option Int
  | [] => some 0
  | c :: r =>
    let (sign, body) := signed r
    let ds := ungrouped body
    if (c = 'e' ∨ c = 'E') ∧ ds ≠ [] ∧ ds.all isDecimal then
      let n : Int := ofDigits 10 ds
      some (if sign = some '-' then -n else n)
    else none

/-- A number with a fraction, an exponent, or both. -/
def fractional? (s : List Char) : Option Document := do
  let (sign, body) := signed s
  guard (isSpaced isDecimal sign.isSome body)
  let run := body.takeWhile isGrouped
  let whole := ungrouped run
  guard (whole ≠ [] ∧ !hasNeedlessZero run)
  let (fraction, rest) ← match body.dropWhile isGrouped with
    | '.' :: r =>
      let ds := ungrouped (r.takeWhile isGrouped)
      if ds = [] then none else some (ds, r.dropWhile isGrouped)
    | rest => some ([], rest)
  let e ← exponent? rest
  let size := Magnitude.ofDecimal (ofDigits 10 (whole ++ fraction)) (e - fraction.length)
  some (.ofMagnitude (sign = some '-') size)

/-! ## The kinds of words -/

/-- A date or a time. -/
def moment? (s : List Char) : Option Document :=
  if Moment.isMoment s then some .moment else none

/-- A number in base ten, a date or a time. What follows the first digits tells which. -/
def numeral? (s : List Char) : Option Document :=
  let rest := (signed s).2.dropWhile isDecimal
  match rest with
  | [] => decimalInteger? s
  | c :: _ =>
    if c = '-' ∨ c = ':' then moment? s
    else if rest.contains ' ' then none
    else if rest.any fun c => c = '.' || c = 'e' || c = 'E' then fractional? s
    else if c = '_' then decimalInteger? s
    else none

/-- The value that a word stands for. -/
def wordValue? : List Char → Option Document
  | ['t', 'r', 'u', 'e'] => some (.boolean true)
  | ['f', 'a', 'l', 's', 'e'] => some (.boolean false)
  | '0' :: 'x' :: r => markedInteger? 16 r
  | '0' :: 'o' :: r => markedInteger? 8 r
  | '0' :: 'b' :: r => markedInteger? 2 r
  | s =>
    match signed s with
    | (sign, ['i', 'n', 'f']) => some (.float (.infinite (sign = some '-')))
    | (_, ['n', 'a', 'n']) => some (.float .nan)
    | _ => numeral? s

end OpeningTerms.Toml
