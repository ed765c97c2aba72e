import OpeningTerms.Log.Event
import OpeningTerms.Sequence.Generator
import OpeningTerms.Sink

/-!
# A run

A run writes the terms of a sequence to a sink, one a line, and flushes the sink in the end.
Terms are produced one at a time, each before it is written: so a run that fails, because a
term does not exist or because the sink does not take it, has written everything before.

A run also tells what it does: that a term has been produced, before it is written, and
that all is done, after the sink has been flushed.
-/

namespace OpeningTerms

/-- Why a run failed. -/
inductive RunError where
  /-- A term does not exist. -/
  | produce (index : Nat) (cause : Overflow)
  | write (cause : SinkFault)
  | flush (cause : SinkFault)

namespace RunError

/-- The sentence that says what failed. -/
def message : RunError → String
  | .produce index _ => "failed to produce term " ++ index.repr
  | .write _ => "failed to write term"
  | .flush _ => "failed to flush output"

/-- The sentence that says why. -/
def cause : RunError → String
  | .produce _ cause => cause.message
  | .write cause => cause.message
  | .flush cause => cause.message

/-- Both sentences, one below the other. -/
def report (e : RunError) : String :=
  e.message ++ "\n\nCaused by:\n    " ++ e.cause

/-- The overflow that made a run fail, if it was one. -/
def overflow? : RunError → Option Overflow
  | .produce _ cause => some cause
  | _ => none

end RunError

/-- Where a run stands. -/
structure Progress (σ : Type) where
  generator : Generator
  sink : σ
  /-- How many terms have been written. -/
  written : Nat := 0
  /-- What has been told, in order. -/
  events : Array Log.Event := #[]

namespace Progress

variable {σ : Type} [Sink σ]

/-- Tells an event. -/
def tell (p : Progress σ) (e : Log.Event) : Progress σ := { p with events := p.events.push e }

/-- The pieces in which a term is written. -/
def pieces (v : UInt64) : List String := [v.toNat.repr, "\n"]

/-- Writes a number of terms. -/
def writeTerms : Nat → Progress σ → Progress σ × Option RunError
  | 0, p => (p, none)
  | left + 1, p =>
    match p.generator.next with
    | .error o => (p, some (.produce p.written o))
    | .ok (v, g) =>
      let p := { p.tell (.term p.written v) with generator := g }
      match Sink.writeAll p.sink (pieces v) with
      | (s, some fault) => ({ p with sink := s }, some (.write fault))
      | (s, none) => writeTerms left { p with sink := s, written := p.written + 1 }

/-- Flushes the sink, and tells that the run is complete. -/
def finish (terms : UInt64) (p : Progress σ) : Progress σ × Option RunError :=
  match Sink.flush p.sink with
  | (s, some fault) => ({ p with sink := s }, some (.flush fault))
  | (s, none) => ({ p with sink := s }.tell (.complete terms), none)

end Progress

/-- The run that the settings ask for. -/
def run {σ : Type} [Sink σ] (s : Settings) (sink : σ) : Progress σ × Option RunError :=
  match Progress.writeTerms s.terms.toNat { generator := .ofSeed s.seed, sink := sink } with
  | (p, some e) => (p, some e)
  | (p, none) => p.finish s.terms

end OpeningTerms
