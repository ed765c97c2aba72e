import OpeningTerms.Text.Digit

/-!
# Levels

An event of the log has a *level*, from errors to traces. A filter lets events through up
to some level, or none at all: its *verbosity*.
-/

namespace OpeningTerms.Log

/-- How important an event is. -/
inductive Level where
  | error
  | warn
  | info
  | debug
  | trace
deriving DecidableEq

/-- The name of a level in capitals. -/
def Level.name : Level → String
  | .error => "ERROR"
  | .warn => "WARN"
  | .info => "INFO"
  | .debug => "DEBUG"
  | .trace => "TRACE"

/-- The place of a level, the most important first. -/
def Level.rank : Level → Nat
  | .error => 1
  | .warn => 2
  | .info => 3
  | .debug => 4
  | .trace => 5

/-- How many of the levels are let through, the most important first. -/
structure Verbosity where
  levels : Nat
deriving DecidableEq

namespace Verbosity

/-- Nothing is let through. -/
def off : Verbosity := ⟨0⟩

/-- Everything up to a level is let through. -/
def upTo (l : Level) : Verbosity := ⟨l.rank⟩

/-- Everything is let through. -/
def all : Verbosity := upTo .trace

/-- Whether a level is let through. -/
def admits (v : Verbosity) (l : Level) : Bool := l.rank ≤ v.levels

/-- The names of the verbosities in small letters, the quietest first. -/
def names : List String := ["off", "error", "warn", "info", "debug", "trace"]

/-- The verbosity that a number stands for. A plus sign in front is allowed. -/
def ofNumber? (s : List Char) : Option Verbosity :=
  let ds := if s.head? = some '+' then s.drop 1 else s
  if ds ≠ [] ∧ ds.all Text.isDecimal ∧ Text.ofDigits 10 ds < names.length then
    some ⟨Text.ofDigits 10 ds⟩
  else none

/-- The verbosity that a name stands for, in letters of either case. -/
def ofName? (s : List Char) : Option Verbosity :=
  (names.idxOf? (.ofList (s.map Char.toLower))).map Verbosity.mk

/-- The verbosity that a text stands for, by its number or its name. -/
def ofText? (s : List Char) : Option Verbosity := ofNumber? s <|> ofName? s

end Verbosity

end OpeningTerms.Log
