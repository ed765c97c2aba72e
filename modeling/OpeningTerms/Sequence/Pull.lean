import OpeningTerms.Sequence.Generator

/-!
# Pulling values

The ways to pull values from a generator that goes on afterwards: the values
that were pulled are gone, whether they were wanted or not, so each operation
returns the generator it leaves behind.

* `take`, `nth`, `skipTake`, `stepBy` and `zip` pull a bounded number of values;
* `search` pulls until a value is found, or to the end. It has no answer
  (`none`) where the search would go on for ever, which is when a value is
  searched among the zeros of the zero generator that zero is not.

A search ends because values grow: after at most one step the sum of the pair
increases with every step (`Generator.room`), and it is bounded.
-/

namespace OpeningTerms.Generator

/-- Up to `n` values. The generator is left alone once there are `n` of them. -/
def take : Nat → Generator → List UInt64 × Generator
  | 0, g => ([], g)
  | n + 1, g =>
    match g.next? with
    | none => ([], g)
    | some (v, g') => let (vs, last) := take n g'; (v :: vs, last)

/-- The value after the next `n`, which are dropped. -/
def nth : Nat → Generator → Option UInt64 × Generator
  | 0, g =>
    match g.next? with
    | none => (none, g)
    | some (v, g') => (some v, g')
  | n + 1, g =>
    match g.next? with
    | none => (none, g)
    | some (_, g') => nth n g'

/-- Up to `n` values after the next `skip`. The skipped values are pulled with the
    first wanted one, so that nothing is pulled where nothing is wanted. -/
def skipTake (skip : Nat) : Nat → Generator → List UInt64 × Generator
  | 0, g => ([], g)
  | n + 1, g =>
    match nth skip g with
    | (none, g') => ([], g')
    | (some v, g') => let (vs, last) := take n g'; (v :: vs, last)

/-- Up to `n` values, each the `stride`-th after the one before it. A stride is at least one. -/
def everyNth (stride : Nat) : Nat → Generator → List UInt64 × Generator
  | 0, g => ([], g)
  | n + 1, g =>
    match nth (stride - 1) g with
    | (none, g') => ([], g')
    | (some v, g') => let (vs, last) := everyNth stride n g'; (v :: vs, last)

/-- Up to `n` values: the next one, and from there on every `stride`-th. -/
def stepBy (stride : Nat) : Nat → Generator → List UInt64 × Generator
  | 0, g => ([], g)
  | n + 1, g =>
    match g.next? with
    | none => ([], g)
    | some (v, g') => let (vs, last) := everyNth stride n g'; (v :: vs, last)

/-- Up to `n` pairs of values of two generators. The first is pulled before the
    second, so its value is lost where the second has ended. -/
def zip : Nat → Generator → Generator → List (UInt64 × UInt64) × Generator × Generator
  | 0, g, h => ([], g, h)
  | n + 1, g, h =>
    match g.next? with
    | none => ([], g, h)
    | some (a, g') =>
      match h.next? with
      | none => ([], g', h)
      | some (b, h') => let (ps, last) := zip n g' h'; ((a, b) :: ps, last)

/-! ## Searching -/

/-- How far the pair is from the end of the range. It shrinks with every step
    of a generator other than the zero one. -/
def room (g : Generator) : Nat :=
  2 * (2 * UInt64.size - (g.previous.toNat + g.current.toNat)) + if g.current = 0 then 1 else 0

theorem room_lt {g g' : Generator} {v : UInt64} (h : g.next? = some (v, g')) (hz : ¬ g.IsZero) :
    g'.room < g.room := by
  obtain ⟨-, hp, hc, -⟩ := next_eq_ok_iff.1 (next?_eq_some_iff.1 h)
  have h₁ := g.previous.toNat_lt
  have h₂ := g.current.toNat_lt
  have h₃ := g'.current.toNat_lt
  have hs : UInt64.size = 2 ^ 64 := rfl
  have hz' : ¬ (g.previous.toNat = 0 ∧ g.current.toNat = 0) := fun ⟨h₁, h₂⟩ =>
    hz ⟨UInt64.toNat_inj.1 h₁, UInt64.toNat_inj.1 h₂⟩
  unfold room
  rw [hp]
  have e₁ : (g.current = 0) ↔ g.current.toNat = 0 := by rw [← UInt64.toNat_inj]; rfl
  have e₂ : (g'.current = 0) ↔ g'.current.toNat = 0 := by rw [← UInt64.toNat_inj]; rfl
  simp only [e₁, e₂]
  split <;> split <;> omega

/-- What a search came to. -/
structure Search where
  /-- The values pulled before the one that was found, or before the end. -/
  passed : List UInt64
  /-- The value that was found; it has been pulled as well. -/
  found : Option UInt64
  /-- The generator afterwards. -/
  rest : Generator

/-- Pulls values up to and including the first that `p` accepts, or to the end;
    `none` if neither ever comes. -/
def search (p : UInt64 → Bool) (g : Generator) : Option Search :=
  match _h : g.next? with
  | none => some ⟨[], none, g⟩
  | some (v, g') =>
    if p v then some ⟨[], some v, g'⟩
    else if _hz : g.IsZero then none
    else (search p g').map fun s => { s with passed := v :: s.passed }
termination_by g.room
decreasing_by exact room_lt _h _hz

/-- All the values still to come, if they ever end. -/
def drain (g : Generator) : Option Search := g.search fun _ => false

end OpeningTerms.Generator
