import OpeningTerms.Sequence.Seed
import OpeningTerms.Json.Reader
import OpeningTerms.Mismatch
import OpeningTerms.Toml.Statement

/-!
# Seeds in texts

A seed is read from a JSON text or from a TOML document. Either half may be missing,
and is then that of the standard seed; other keys are ignored. In JSON a seed may also
be an array of its halves in order, of which the last ones may be missing.

A JSON text is looked at from the front, and the first fault decides, be it one of the
text or of a value. The keys of a TOML document are looked at in ascending order, once
the whole document has been found to be well formed.
-/

namespace OpeningTerms

/-- Why no seed was read from a text. -/
inductive SeedFault where
  /-- The text itself is at fault. -/
  | malformed
  | mismatch (m : Mismatch)

namespace Json

/-- How floats are written in messages about JSON texts. -/
def floatLayout : Decimal.Layout := ⟨.toEven, some (-5, 15)⟩

/-- What a value is that was not wanted; nothing if its text is at fault. -/
def Value.found? : Value → Option Found
  | .null => some .null
  | .boolean b => some (.boolean b)
  | .number (.integer n) => some (.integer n)
  | .number (.float x) => some (.float (floatLayout.text x))
  | .number .overflow => none
  | .text s => s.map .text
  | .array _ => some .sequence
  | .object _ => some .map
  | .broken => none

/-- The fault of a value that is not what is wanted. -/
def Value.misfit (v : Value) (wanted : Wanted) : SeedFault :=
  match v.found? with
  | some f => .mismatch (.wrongType f wanted)
  | none => .malformed

/-- A natural number of 64 bits. -/
def Value.amount : Value → Except SeedFault UInt64
  | .number (.integer n) =>
    if 0 ≤ n then .ok (.ofNat n.toNat) else .error (.mismatch (.wrongValue n .amount))
  | v => .error (v.misfit .amount)

/-- The halves of a seed, as far as they have been given. -/
structure Halves where
  previous : Option UInt64 := none
  current : Option UInt64 := none

/-- The seed of which some halves were given. -/
def Halves.seed (h : Halves) : Seed :=
  ⟨h.previous.getD Seed.standard.previous, h.current.getD Seed.standard.current⟩

/-- The halves after one more member of an object. -/
def Halves.member (h : Halves) : Option String × Value → Except SeedFault Halves
  | (none, _) => .error .malformed
  | (some k, v) =>
    if k = "previous" then
      if h.previous.isSome then .error (.mismatch (.duplicate k))
      else v.amount.map fun n => { h with previous := some n }
    else if k = "current" then
      if h.current.isSome then .error (.mismatch (.duplicate k))
      else v.amount.map fun n => { h with current := some n }
    else if v.isWhole then .ok h
    else .error .malformed

/-- The seed that a value stands for. -/
def Value.seed : Value → Except SeedFault Seed
  | .array [] => .ok .standard
  | .array [v] => v.amount.map fun n => { previous := n }
  | .array [v, w] => do
    let p ← v.amount
    let c ← w.amount
    .ok ⟨p, c⟩
  | .array (v :: w :: _) => do
    let _ ← v.amount
    let _ ← w.amount
    .error .malformed
  | .object ms => (ms.foldlM Halves.member {}).map Halves.seed
  | v => .error (v.misfit .seed)

end Json

/-- The seed in a JSON text. -/
def Seed.ofJson (text : String) : Except SeedFault Seed :=
  let (v, isAll) := Json.Value.read text
  v.seed.bind fun s => if isAll then .ok s else .error .malformed

namespace Toml

/-- How floats are written in messages about TOML documents: never with an exponent. -/
def floatLayout : Decimal.Layout := ⟨.away, none⟩

/-- Whether 64 bits hold an integer, with a sign or without. -/
def isShort (n : Int) : Bool := -0x8000000000000000 ≤ n && n ≤ 0xffffffffffffffff

/-- What a value is that was not wanted; its overflow, where a number has no value. -/
def Document.found : Document → Except Mismatch Found
  | .text s => .ok (.text s)
  | .integer n => .ok (if isShort n then .integer n else .wideInteger n)
  | .float x => .ok (.float (floatLayout.text x))
  | .overflow kind => .error (.overflow kind)
  | .boolean b => .ok (.boolean b)
  | .moment => .ok .map
  | .array _ => .ok .sequence
  | .table _ => .ok .map

/-- The mismatch of a value that is not what is wanted. -/
def Document.misfit (d : Document) (wanted : Wanted) : Mismatch :=
  match d.found with
  | .ok f => .wrongType f wanted
  | .error m => m

/-- A natural number of 64 bits. -/
def Document.amount (d : Document) : Except Mismatch UInt64 :=
  match d with
  | .integer n =>
    if 0 ≤ n ∧ isShort n then .ok (.ofNat n.toNat)
    else if isShort n then .error (.wrongValue n .amount)
    else .error (d.misfit .amount)
  | d => .error (d.misfit .amount)

mutual

/-- Passes over a value that does not matter. Its numbers must still be in range. -/
def Document.ignore : Document → Except Mismatch Unit
  | .overflow kind => .error (.overflow kind)
  | .array items => ignoreItems items
  | .table entries => ignoreEntries entries
  | .text _ => .ok ()
  | .integer _ => .ok ()
  | .float _ => .ok ()
  | .boolean _ => .ok ()
  | .moment => .ok ()

/-- Passes over items in order. -/
def ignoreItems : List Document → Except Mismatch Unit
  | [] => .ok ()
  | d :: ds => d.ignore.bind fun _ => ignoreItems ds

/-- Passes over the values of entries in order. -/
def ignoreEntries : List (String × Document) → Except Mismatch Unit
  | [] => .ok ()
  | (_, d) :: es => d.ignore.bind fun _ => ignoreEntries es

end

/-- The seed after one more entry of its table. -/
def seedEntry (s : Seed) : String × Document → Except Mismatch Seed
  | (k, d) =>
    if k = "previous" then d.amount.map fun n => { s with previous := n }
    else if k = "current" then d.amount.map fun n => { s with current := n }
    else d.ignore.map fun _ => s

/-- The seed that an arranged value stands for. It stands alone in a document, or its entries stand
    in the section on the sequence, so it is a table in either case. An array of halves, as a seed
    may be in JSON, does not come up, and is refused like any other value that is none. -/
def Document.seed : Document → Except Mismatch Seed
  | .table es => es.foldlM seedEntry .standard
  | .moment => .ok .standard
  | d => .error (d.misfit .seed)

end Toml

/-- The seed in a TOML document. -/
def Seed.ofToml (text : String) : Except SeedFault Seed :=
  match Toml.Document.read? text with
  | none => .error .malformed
  | some d => d.arranged.seed.mapError .mismatch

end OpeningTerms
