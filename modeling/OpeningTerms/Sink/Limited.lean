import OpeningTerms.Sink

/-!
# Limited sinks

A sink that keeps what it takes, up to some number of bytes. Of the piece that goes beyond
it takes what still fits, and fails. Only ASCII text is written to it, so that bytes are
characters.
-/

namespace OpeningTerms

/-- A sink with room for a number of bytes, or for any number. -/
structure LimitedSink where
  /-- How many bytes it takes in all; no limit if there is no number. -/
  limit : Option Nat := none
  /-- What it fails with at the limit. -/
  fault : SinkFault := .full
  /-- Whether it fails to be flushed. -/
  failsToFlush : Bool := false
  /-- What it has taken. -/
  text : String := ""
  /-- How often it was to be flushed. -/
  flushes : Nat := 0

namespace LimitedSink

/-- Takes a piece, or the part of it that fits. -/
def write (s : LimitedSink) (piece : String) : LimitedSink × Option SinkFault :=
  match s.limit with
  | none => ({ s with text := s.text ++ piece }, none)
  | some limit =>
    let room := limit - s.text.utf8ByteSize
    if piece.utf8ByteSize ≤ room then ({ s with text := s.text ++ piece }, none)
    else ({ s with text := s.text ++ .ofList (piece.toList.take room) }, some s.fault)

/-- Counts an attempt to flush. -/
def flush (s : LimitedSink) : LimitedSink × Option SinkFault :=
  ({ s with flushes := s.flushes + 1 }, if s.failsToFlush then some .refused else none)

instance : Sink LimitedSink := ⟨write, flush⟩

end LimitedSink

end OpeningTerms
