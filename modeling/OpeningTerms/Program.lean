import OpeningTerms.Log.Filter
import OpeningTerms.Run
import OpeningTerms.Sink.Buffered

/-!
# The program

The whole program as a function of its surroundings: the home directory and what stands in
the place of the settings file there, the filter in the environment, and the standard
output. Its answer is an exit code, what reaches the standard output, and what is written
to the standard error.

Settings that cannot be loaded are replaced by the standard ones as a whole. The filter in
force is that of the environment, if it is of use; else that of the settings; else the
standard one. The terms go to the standard output through a buffer; events go to the
standard error as far as the filter lets them through, followed by the report of a failure.

Where the reader of filters breaks off, so does the program, before anything has been told or
written. What it does else, it does under the filter that has been chosen
(`Surroundings.outcomeUnder`).
-/

namespace OpeningTerms

/-- All that the program depends on. -/
structure Surroundings where
  home : String
  /-- What stands in the place of the settings file. -/
  place : Place := .vacant
  /-- The filter in the environment, if there is one. It need not be text. -/
  filter : Option ByteArray := none
  /-- How the reader of documents words what is wrong with the one in the settings file. -/
  wording : Wording := .standIn
  /-- What is reported where the program breaks off. The words are those of the runtime. -/
  breakdown : String := "<panic>\n"
  /-- The standard output. -/
  output : Device := {}
  /-- The arguments of the command line. The program has no use for them. -/
  arguments : List String := []

/-- All that the program brings about. -/
structure Outcome where
  code : UInt32
  output : String
  errors : String

namespace Log

/-- What comes of reading the filter in the environment, if there is a text. -/
def environmentFilter? (bytes : Option ByteArray) : Option (Except FilterError Filter) := do
  let bytes ← bytes
  let text ← String.fromUTF8? bytes
  some (Filter.ofText text)

/-- The filter that is in force where nothing of use is set. -/
def standardFilter : Filter := [{ verbosity := .upTo .warn }]

/-- A filter that has been chosen, and the events that its choice is worth. -/
structure Choice where
  filter : Filter
  events : List Event := []

/-- The choice between the filter of the settings and the standard one. There is none where the
    reader breaks off. -/
def chooseSetting (setting : String) : Option Choice :=
  match Filter.ofText setting with
  | .ok f => some { filter := f }
  | .error (.invalid fault) =>
    some { filter := standardFilter, events := [.filterRejected fault setting] }
  | .error .brokenOff => none

/-- The choice among all filters. That of the settings is not read if that of the environment is
    of use. -/
def chooseFilter (environment : Option ByteArray) (setting : String) : Option Choice :=
  match environmentFilter? environment with
  | none => chooseSetting setting
  | some (.ok f) => some { filter := f }
  | some (.error (.invalid _)) => chooseSetting setting
  | some (.error .brokenOff) => none

end Log

namespace Surroundings

variable (w : Surroundings)

/-- The settings in force, and the events that their loading is worth. -/
def settings : Settings × List Log.Event :=
  match Settings.load w.home w.place with
  | .ok s => (s.getD {}, [])
  | .error e => ({}, [.loadFailed e])

/-- The filter in force, unless the program breaks off before there is one. -/
def choice? : Option Log.Choice := Log.chooseFilter w.filter w.settings.1.logFilter

/-- The run, through a buffer in front of the standard output. -/
def outcomeOfRun : Progress Buffered × Option RunError :=
  run w.settings.1 { device := w.output : Buffered }

section

/-! ### Under a filter -/

variable (c : Log.Choice)

/-- All events, in order. -/
def eventsUnder : List Log.Event :=
  c.events ++ w.settings.2 ++ [.settingsPath (Settings.pathIn w.home)] ++
    w.outcomeOfRun.1.events.toList

/-- The events that the filter lets through. -/
def admittedUnder : List Log.Event := (w.eventsUnder c).filter c.filter.admits

/-- What is logged: the events that the filter lets through, one below the other. -/
def logUnder : String :=
  String.join ((w.admittedUnder c).map fun e => e.line w.wording ++ "\n")

/-- What the program brings about once the filter has been chosen. -/
def outcomeUnder : Outcome :=
  let (p, failure) := w.outcomeOfRun
  { code := if failure.isSome then 1 else 0
    output := p.sink.close.text
    errors := w.logUnder c ++ failure.elim "" fun e => "Error: " ++ e.report ++ "\n" }

end

/-- All events of the program, in order. There are none where it breaks off. -/
def events : List Log.Event := w.choice?.elim [] w.eventsUnder

/-- The events of the program that the filter lets through. -/
def admitted : List Log.Event := w.choice?.elim [] w.admittedUnder

/-- The outcome of a program that breaks off before there is a filter: nothing has reached the
    standard output by then. -/
def outcomeOfBreakdown : Outcome :=
  { code := 101, output := w.output.text, errors := w.breakdown }

/-- What the program brings about. -/
def outcome : Outcome := w.choice?.elim w.outcomeOfBreakdown w.outcomeUnder

end Surroundings

end OpeningTerms
