/-!
# Seeds

A sequence of Fibonacci type is fixed by its first two values, its *seed*. The
standard seed is `(0, 1)`; each half has its own default, so that a seed of
which only one half is given is completed by the other half of the standard one.
-/

namespace OpeningTerms

/-- The two values that a sequence starts from. -/
structure Seed where
  /-- The first value. -/
  previous : UInt64 := 0
  /-- The second value. -/
  current : UInt64 := 1
deriving DecidableEq

namespace Seed

/-- The standard seed, `(0, 1)`. -/
def standard : Seed := {}

instance : Inhabited Seed := ⟨standard⟩

/-- The fields of a seed by name, in the order in which they are written. -/
def fields (s : Seed) : List (String × UInt64) :=
  [("previous", s.previous), ("current", s.current)]

/-- A seed as it is shown to a person who inspects it. -/
def describe (s : Seed) : String :=
  "Seed \x7b previous: " ++ s.previous.toNat.repr ++ ", current: " ++ s.current.toNat.repr ++
    " \x7d"

/-- A seed as a JSON object. -/
def toJson (s : Seed) : String :=
  "\x7b\"previous\":" ++ s.previous.toNat.repr ++ ",\"current\":" ++ s.current.toNat.repr ++ "\x7d"

/-- A seed as a TOML document, one line a field. -/
def toToml (s : Seed) : String :=
  "previous = " ++ s.previous.toNat.repr ++ "\ncurrent = " ++ s.current.toNat.repr ++ "\n"

end Seed

end OpeningTerms
