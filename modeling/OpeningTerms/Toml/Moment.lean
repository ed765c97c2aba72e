import OpeningTerms.Text.Digit

/-!
# Dates and times

A date is written `YYYY-MM-DD` and must exist in the calendar; a time is written
`hh:mm`, with optional seconds and a fraction of these. A date may be followed by a
time, after a `T` or one space, and then by an offset from universal time. Only
whether a text is one of these matters, not which moment it names.
-/

namespace OpeningTerms.Toml.Moment

open OpeningTerms.Text

/-- Two digits in front of `s`, at most `limit`. -/
def twoDigits (limit : Nat) : List Char → Option (Nat × List Char)
  | a :: b :: r =>
    let n := ofDigits 10 [a, b]
    if isDecimal a && isDecimal b && n ≤ limit then some (n, r) else none
  | _ => none

/-- What follows `c` at the front. -/
def after (c : Char) : List Char → Option (List Char)
  | d :: r => if d = c then some r else none
  | [] => none

/-- The number of days of a month. -/
def daysOf (year month : Nat) : Nat :=
  if month = 2 then
    if year % 4 = 0 ∧ (year % 100 ≠ 0 ∨ year % 400 = 0) then 29 else 28
  else if month = 4 ∨ month = 6 ∨ month = 9 ∨ month = 11 then 30
  else 31

/-- What follows a date at the front. -/
def afterDate (s : List Char) : Option (List Char) := do
  let year := s.take 4
  guard (year.length = 4 ∧ year.all isDecimal)
  let s ← after '-' (s.drop 4)
  let (month, s) ← twoDigits 12 s
  let s ← after '-' s
  let (day, s) ← twoDigits 31 s
  guard (1 ≤ month ∧ 1 ≤ day ∧ day ≤ daysOf (ofDigits 10 year) month)
  some s

/-- What follows the fraction of a second at the front, if there is one. -/
def afterFraction (s : List Char) : Option (List Char) :=
  match s with
  | '.' :: r => if r.head?.any isDecimal then some (r.dropWhile isDecimal) else none
  | _ => some s

/-- What follows a time at the front. A minute may have a leap second. -/
def afterTime (s : List Char) : Option (List Char) := do
  let (_, s) ← twoDigits 23 s
  let s ← after ':' s
  let (_, s) ← twoDigits 59 s
  match s with
  | ':' :: r =>
    let (_, r) ← twoDigits 60 r
    afterFraction r
  | _ => some s

/-- An offset from universal time, or none, up to the end of the text. -/
def isOffset : List Char → Bool
  | [] => true
  | [c] => c == 'Z' || c == 'z'
  | c :: s =>
    (c == '+' || c == '-') && (do
      let (_, s) ← twoDigits 23 s
      let s ← after ':' s
      let (_, s) ← twoDigits 59 s
      guard (s = [])).isSome

/-- A date, a time, or a date with a time and possibly an offset. -/
def isMoment (s : List Char) : Bool :=
  match afterDate s with
  | some [] => true
  | some (c :: r) => (c == 'T' || c == 't' || c == ' ') && (afterTime r).any isOffset
  | none => afterTime s == some []

end OpeningTerms.Toml.Moment
