/-!
# Sinks

A *sink* takes text piece by piece. It may fail, and then still has taken what it took.
-/

namespace OpeningTerms

/-- Why a sink failed. -/
inductive SinkFault where
  /-- There is room for no more. -/
  | full
  /-- Nothing of a piece was taken. -/
  | stalled
  /-- The sink does not let itself be flushed. -/
  | refused
  /-- The device behind the sink is full. -/
  | deviceFull
deriving DecidableEq

/-- The sentence that reports why a sink failed. -/
def SinkFault.message : SinkFault → String
  | .full => "sink is full"
  | .stalled => "failed to write whole buffer"
  | .refused => "flush refused"
  | .deviceFull => "No space left on device (os error 28)"

/-- The states of a sink, with what they do when a piece is written or they are flushed. -/
class Sink (σ : Type) where
  write : σ → String → σ × Option SinkFault
  flush : σ → σ × Option SinkFault

/-- Writes one piece after the other until one fails. -/
def Sink.writeAll {σ : Type} [Sink σ] (s : σ) : List String → σ × Option SinkFault
  | [] => (s, none)
  | p :: ps =>
    match Sink.write s p with
    | (s, none) => Sink.writeAll s ps
    | (s, some fault) => (s, some fault)

end OpeningTerms
