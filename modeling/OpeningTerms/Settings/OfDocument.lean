import OpeningTerms.Settings
import OpeningTerms.Sequence.SeedText

/-!
# Settings in a document

The settings are read from the tables `sequence` and `log` of a document, and of
these from the keys `terms`, `previous`, `current` and `filter`. Other keys are ignored.
The keys of a table are looked at in ascending order, and the first mismatch decides.

* In the section on the sequence the number of terms is read when its key comes;
  all other values are kept until the end, when the second half of the seed is
  read before the first. Only values of up to 64 bits can be kept, at any depth,
  whether they are wanted in the end or not.
* The section on the log may also be an array, whose first item is the filter. The
  other items are never looked at.
* A date counts as a table with a key of its own that means nothing here.
-/

namespace OpeningTerms

namespace Toml

mutual

/-- Keeps a value for later. -/
def Document.keep : Document → Except Mismatch Unit
  | .integer n => if isShort n then .ok () else .error (.wrongType (.wideInteger n) .anything)
  | .overflow kind => .error (.overflow kind)
  | .array items => keepItems items
  | .table entries => keepEntries entries
  | .text _ => .ok ()
  | .float _ => .ok ()
  | .boolean _ => .ok ()
  | .moment => .ok ()

/-- Keeps items in order. -/
def keepItems : List Document → Except Mismatch Unit
  | [] => .ok ()
  | d :: ds => d.keep.bind fun _ => keepItems ds

/-- Keeps the values of entries in order. -/
def keepEntries : List (String × Document) → Except Mismatch Unit
  | [] => .ok ()
  | (_, d) :: es => d.keep.bind fun _ => keepEntries es

end

/-- The number of terms after one more entry of the section on the sequence. -/
def termsEntry (terms : Option UInt64) : String × Document → Except Mismatch (Option UInt64)
  | (k, d) => if k = "terms" then d.amount.map some else d.keep.map fun _ => terms

/-- A half of the seed that was kept, if it was given. -/
def keptHalf (k : String) (default : UInt64) (es : List (String × Document)) :
    Except Mismatch UInt64 :=
  match es.lookup k with
  | some d => d.amount
  | none => .ok default

/-- The section on the sequence. -/
def Document.sequenceSettings : Document → Except Mismatch SequenceSettings
  | .table es => do
    let terms ← es.foldlM termsEntry none
    let current ← keptHalf "current" Seed.standard.current es
    let previous ← keptHalf "previous" Seed.standard.previous es
    .ok ⟨terms, ⟨previous, current⟩⟩
  | .moment => .ok {}
  | d => .error (d.misfit .sequenceSection)

/-- The text of a filter. -/
def Document.filterText : Document → Except Mismatch String
  | .text s => .ok s
  | d => .error (d.misfit .text)

/-- The filter after one more entry of the section on the log. -/
def filterEntry (filter : Option String) : String × Document → Except Mismatch (Option String)
  | (k, d) => if k = "filter" then d.filterText.map some else d.ignore.map fun _ => filter

/-- The section on the log. -/
def Document.logSettings : Document → Except Mismatch LogSettings
  | .table es => (es.foldlM filterEntry none).map fun f => ⟨f⟩
  | .array [] => .error .missingFilter
  | .array (d :: _) => d.filterText.map fun f => ⟨some f⟩
  | .moment => .ok {}
  | d => .error (d.misfit .logSection)

/-- The settings after one more entry of the document. -/
def settingsEntry (s : Settings) : String × Document → Except Mismatch Settings
  | (k, d) =>
    if k = "log" then d.logSettings.map fun l => { s with log := some l }
    else if k = "sequence" then d.sequenceSettings.map fun q => { s with sequence := some q }
    else d.ignore.map fun _ => s

end Toml

/-- The settings in a document. -/
def Settings.ofDocument (d : Toml.Document) : Except Mismatch Settings :=
  match d.arranged with
  | .table es => es.foldlM Toml.settingsEntry {}
  | _ => .ok {}

end OpeningTerms
