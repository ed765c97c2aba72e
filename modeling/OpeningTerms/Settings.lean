import OpeningTerms.Sequence.Seed
import OpeningTerms.Text.Blank

/-!
# Settings

What can be set: how many terms are printed and from which seed, and the filter of
the log. Everything may be left out. The settings keep what was given as it was
given; the accessors fill in the defaults.
-/

namespace OpeningTerms

/-- The section on the sequence. -/
structure SequenceSettings where
  /-- How many terms are printed. -/
  terms : Option UInt64 := none
  seed : Seed := .standard

/-- The section on the log. -/
structure LogSettings where
  /-- The text of the filter, blanks included. -/
  filter : Option String := none

/-- Everything that can be set. -/
structure Settings where
  sequence : Option SequenceSettings := none
  log : Option LogSettings := none

namespace Settings

/-- How many terms are printed unless it is set. -/
def defaultTerms : UInt64 := 10

/-- The filter of the log unless it is set. -/
def defaultLogFilter : String := "warn"

variable (s : Settings)

/-- How many terms are printed. -/
def terms : UInt64 := (s.sequence.bind (·.terms)).getD defaultTerms

/-- The seed of the sequence. -/
def seed : Seed := (s.sequence.map (·.seed)).getD .standard

/-- The filter of the log, without the white space around it. A filter of nothing else
    counts as not set. -/
def logFilter : String :=
  (((s.log.bind (·.filter)).map Text.trim).filter (· ≠ "")).getD defaultLogFilter

end Settings

end OpeningTerms
