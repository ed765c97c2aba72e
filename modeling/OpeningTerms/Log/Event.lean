import OpeningTerms.Log.Level
import OpeningTerms.Pattern.Reader
import OpeningTerms.Settings.File
import OpeningTerms.Text.Inert

/-!
# Events

What the program tells about its work while it runs. An event has a level, a message and
named values, and is written in one line.
-/

namespace OpeningTerms.Log

/-- What is wrong with the text of a filter. -/
inductive FilterFault where
  /-- A directive does not follow the grammar. -/
  | directive
  /-- What should be a level is none. -/
  | level
  /-- The value of a field is not one that can be asked for. -/
  | value (fault : Pattern.Fault)
deriving DecidableEq

/-- The sentence that reports what is wrong with the value of a field. -/
def valueFaultMessage : Pattern.Fault → String
  | .malformed => "error building NFA"
  | .wordEdge => "unsupported regex feature for DFAs: cannot build DFAs for regexes with " ++
      "Unicode word boundaries; switch to ASCII word boundaries, or heuristically enable " ++
      "Unicode word boundaries or use a different regex engine"

/-- The sentence that reports what is wrong with a filter. -/
def FilterFault.message : FilterFault → String
  | .directive => "invalid filter directive"
  | .value fault => "invalid field filter: " ++ valueFaultMessage fault
  | .level => "error parsing level filter: expected one of \"off\", \"error\", \"warn\", " ++
      "\"info\", \"debug\", \"trace\", or a number 0-5"

/-- The name under which all events are logged. -/
def logTarget : String := "fibseq"

/-- Something worth telling. -/
inductive Event where
  /-- The filter in the settings is of no use. -/
  | filterRejected (fault : FilterFault) (filter : String)
  /-- The settings could not be loaded. -/
  | loadFailed (error : LoadError)
  /-- Where settings are looked for. -/
  | settingsPath (path : String)
  /-- A term has been produced. -/
  | term (index : Nat) (value : UInt64)
  /-- All terms have been written. -/
  | complete (terms : UInt64)

namespace Event

/-- How important an event is. -/
def level : Event → Level
  | .filterRejected .. => .warn
  | .loadFailed _ => .warn
  | .settingsPath _ => .debug
  | .term .. => .debug
  | .complete _ => .info

/-- The message of an event. -/
def message (wording : Wording) : Event → String
  | .filterRejected fault _ =>
    "Invalid log filter in config (" ++ fault.message ++ "); using " ++ Settings.defaultLogFilter
  | .loadFailed error => error.summary wording ++ "; using defaults"
  | .settingsPath _ => "config path"
  | .term .. => "term"
  | .complete _ => "sequence complete"

/-- The values of an event by name, in the order in which they are written. -/
def values : Event → List (String × String)
  | .filterRejected _ filter => [("filter", Text.quote filter)]
  | .loadFailed _ => []
  | .settingsPath path => [("path", path)]
  | .term index value => [("index", index.repr), ("value", value.toNat.repr)]
  | .complete terms => [("terms", terms.toNat.repr)]

/-- The names that an event has something under, the message being one of them. -/
def fields (e : Event) : List String := "message" :: e.values.map (·.1)

/-- An event in one line, its level as it is. The message is made inert, as a path may
    have anything in it; the values are not. -/
def text (e : Event) (wording : Wording := .standIn) : String :=
  e.level.name ++ " " ++ logTarget ++ ": " ++ Text.inert (e.message wording) ++
    String.join (e.values.map fun (k, v) => " " ++ k ++ "=" ++ v)

/-- An event in one line of a log, where the levels are aligned at their right end. -/
def line (e : Event) (wording : Wording := .standIn) : String :=
  .ofList (List.replicate (5 - e.level.name.length) ' ') ++ e.text wording

end Event

end OpeningTerms.Log
