import OpeningTerms.Sink

/-!
# Buffered output

A device that text is put out to, and a buffer in front of it. Pieces are held in the
buffer until one does not fit any more, or until the buffer is flushed or closed; a piece
that fills the buffer exactly still fits. Pieces of the size of the whole buffer pass it by.

* `Buffered.contents` is all that was written, put out or not: in front of a device that is
  not full, `write` appends to it and `drain` leaves it alone, and neither fails.
-/

namespace OpeningTerms

/-- A device for output. -/
structure Device where
  /-- Whether it takes nothing. -/
  isFull : Bool := false
  /-- What it has taken. -/
  text : String := ""

/-- Puts a piece out. -/
def Device.write (d : Device) (piece : String) : Device × Option SinkFault :=
  if d.isFull then (d, some .deviceFull) else ({ d with text := d.text ++ piece }, none)

/-- A device behind a buffer. -/
structure Buffered where
  device : Device := {}
  /-- What has been written and not yet put out. -/
  held : String := ""

namespace Buffered

/-- All that was written: what the device has taken, and what is still held. -/
def contents (b : Buffered) : String := b.device.text ++ b.held

/-- How many bytes the buffer holds. -/
def capacity : Nat := 8192

/-- Puts out what is held. Nothing is asked of the device if nothing is held. -/
def drain (b : Buffered) : Buffered × Option SinkFault :=
  if b.held.isEmpty then (b, none)
  else
    match b.device.write b.held with
    | (d, none) => ({ device := d }, none)
    | (d, some fault) => ({ b with device := d }, some fault)

/-- Takes a piece into the buffer if there is room, or else past it. -/
def accept (b : Buffered) (piece : String) : Buffered × Option SinkFault :=
  if piece.utf8ByteSize < capacity then ({ b with held := b.held ++ piece }, none)
  else
    let (d, fault) := b.device.write piece
    ({ b with device := d }, fault)

/-- Writes a piece. -/
def write (b : Buffered) (piece : String) : Buffered × Option SinkFault :=
  if b.held.utf8ByteSize + piece.utf8ByteSize ≤ capacity then b.accept piece
  else
    match b.drain with
    | (b, none) => b.accept piece
    | (b, some fault) => (b, some fault)

instance : Sink Buffered := ⟨write, drain⟩

/-- The device after the buffer is closed: what was held is put out, if the device lets it. -/
def close (b : Buffered) : Device := b.drain.1.device

/-! In front of a device that is not full, nothing fails and nothing is lost. -/

variable {b : Buffered}

theorem drain_eq (h : b.device.isFull = false) :
    b.drain = ({ device := { isFull := false, text := b.contents } }, none) := by
  obtain ⟨⟨isFull, text⟩, held⟩ := b
  cases h
  unfold drain
  split
  · rename_i he
    rw [String.isEmpty_iff] at he
    cases he
    rw [contents, String.append_empty]
  · rfl

theorem accept_eq (h : b.device.isFull = false) {p : String}
    (hp : b.held = "" ∨ p.utf8ByteSize < capacity) :
    ∃ b', b.accept p = (b', none) ∧ b'.device.isFull = false ∧ b'.contents = b.contents ++ p := by
  obtain ⟨⟨isFull, text⟩, held⟩ := b
  cases h
  unfold accept
  split
  · exact ⟨_, rfl, rfl, String.append_assoc.symm⟩
  · rename_i hc
    cases hp.resolve_right hc
    exact ⟨_, rfl, rfl, by rw [contents, contents, String.append_empty, String.append_empty]⟩

theorem write_eq (h : b.device.isFull = false) (p : String) :
    ∃ b', b.write p = (b', none) ∧ b'.device.isFull = false ∧ b'.contents = b.contents ++ p := by
  unfold write
  split
  · rename_i hc
    refine accept_eq h ?_
    by_cases hp : p.utf8ByteSize < capacity
    · exact .inr hp
    · -- A piece of the size of the buffer fits only where nothing is held.
      exact .inl (String.utf8ByteSize_eq_zero_iff.1 (by omega))
  · rw [drain_eq h]
    obtain ⟨b', h₁, h₂, h₃⟩ := accept_eq (b := { device := { isFull := false, text := b.contents } })
      rfl (p := p) (.inl rfl)
    exact ⟨b', h₁, h₂, by rw [h₃, contents, String.append_empty]⟩

theorem close_text (h : b.device.isFull = false) : b.close.text = b.contents := by
  rw [close, drain_eq h]

end Buffered

end OpeningTerms
