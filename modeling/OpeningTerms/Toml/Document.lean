import OpeningTerms.Decimal.Binary64

/-!
# Documents

What a TOML document says, as a tree. Numbers are kept exactly; a number that is
beyond every range is a value too, so that it is up to the reader of the tree
whether it is ever looked at. Tables keep the order of the text.

* `Document.arranged` is the tree with the keys of all its tables in ascending
  order, the order in which they are looked at.
-/

namespace OpeningTerms.Toml

/-- The two kinds of numbers. -/
inductive NumberKind where
  | integer
  | float
deriving DecidableEq

/-- A value of a document. -/
inductive Document where
  | text (s : String)
  /-- An integer of at most 128 bits. -/
  | integer (n : Int)
  | float (x : Decimal.Binary64)
  /-- A number beyond every range. -/
  | overflow (kind : NumberKind)
  | boolean (b : Bool)
  /-- A date, a time, or both. -/
  | moment
  | array (items : List Document)
  | table (entries : List (String × Document))

/-- The order of the keys of a table, by the bytes of their text. -/
def keyLe (a b : String × Document) : Bool := !decide (b.1 < a.1)

mutual

/-- The tree with the keys of every table in ascending order. -/
def Document.arranged : Document → Document
  | .text s => .text s
  | .integer n => .integer n
  | .float x => .float x
  | .overflow kind => .overflow kind
  | .boolean b => .boolean b
  | .moment => .moment
  | .array items => .array (arrangedItems items)
  | .table entries => .table ((arrangedEntries entries).mergeSort keyLe)

/-- Every item arranged. -/
def arrangedItems : List Document → List Document
  | [] => []
  | d :: ds => d.arranged :: arrangedItems ds

/-- The value of every entry arranged. -/
def arrangedEntries : List (String × Document) → List (String × Document)
  | [] => []
  | (k, d) :: es => (k, d.arranged) :: arrangedEntries es

end

/-- The least integer of the 128-bit signed range. -/
def leastInteger : Int := -0x80000000000000000000000000000000

/-- The largest integer of the 128-bit unsigned range. -/
def largestInteger : Int := 0xffffffffffffffffffffffffffffffff

/-- An integer, if 128 bits can hold it. -/
def Document.ofInteger (n : Int) : Document :=
  if leastInteger ≤ n ∧ n ≤ largestInteger then .integer n else .overflow .integer

/-- A rounded number, if the rounding found one. -/
def Document.ofMagnitude (negative : Bool) : Option Decimal.Magnitude → Document
  | some x => .float (.finite negative x)
  | none => .overflow .float

end OpeningTerms.Toml
