import OpeningTerms.Sequence.Seed

/-!
# The generator

A *generator* walks along the sequence of its seed: it holds the next two values
and counts the values it has given. A step gives the first of the two and moves
on to the pair of the second and their sum. Arithmetic is checked: when the sum
does not fit into 64 bits the step fails, and leaves the generator as it was. A
value is therefore given only if the value two places after it still fits.

* `checkedAdd_eq_some_iff`: the sum of two words exists when it fits, and is then
  the sum of the numbers;
* `next_eq_error_iff`: a step fails exactly when the sum of the pair does not fit;
* `next_eq_ok_iff`: what a step gives and what it leaves.
-/

namespace OpeningTerms

/-- The sum of two words, if it fits into a word. -/
def checkedAdd (a b : UInt64) : Option UInt64 :=
  if a.toNat + b.toNat < UInt64.size then some (a + b) else none

/-- There is no sum exactly if it takes more than 64 bits. -/
theorem checkedAdd_eq_none_iff {a b : UInt64} :
    checkedAdd a b = none ↔ UInt64.size ≤ a.toNat + b.toNat := by
  simp [checkedAdd]

theorem checkedAdd_eq_some_iff {a b c : UInt64} :
    checkedAdd a b = some c ↔ c.toNat = a.toNat + b.toNat := by
  have hc := c.toNat_lt
  unfold checkedAdd
  split
  · rename_i h
    simp only [Option.some.injEq, ← UInt64.toNat_inj, UInt64.toNat_add]
    rw [Nat.mod_eq_of_lt h]
    exact eq_comm
  · rename_i h
    simp only [reduceCtorEq, false_iff]
    have : UInt64.size = 2 ^ 64 := rfl
    omega

/-- A step failed: the sequence leaves the 64-bit range. -/
structure Overflow where
  /-- How many values had been given before. -/
  produced : UInt64
deriving DecidableEq

namespace Overflow

/-- The sentence that reports an overflow. -/
def message (o : Overflow) : String :=
  "fibonacci sequence overflowed u64 after " ++ o.produced.toNat.repr ++ " terms"

/-- An overflow as it is shown to a person who inspects it. -/
def describe (o : Overflow) : String :=
  "Overflow \x7b produced: " ++ o.produced.toNat.repr ++ " \x7d"

end Overflow

/-- A place in a sequence: the next two values, and the number of values given. -/
structure Generator where
  /-- The value that the next step gives. -/
  previous : UInt64
  /-- The value after it. -/
  current : UInt64
  /-- How many values have been given. It is a word, and wraps around as one. -/
  produced : UInt64
deriving DecidableEq

namespace Generator

/-- The generator at the start of the sequence of `s`. -/
def ofSeed (s : Seed) : Generator := ⟨s.previous, s.current, 0⟩

instance : Inhabited Generator := ⟨ofSeed .standard⟩

/-- A step: the value given and the generator after it, or an overflow. -/
def next (g : Generator) : Except Overflow (UInt64 × Generator) :=
  match checkedAdd g.previous g.current with
  | some sum => .ok (g.previous, ⟨g.current, sum, g.produced + 1⟩)
  | none => .error ⟨g.produced⟩

/-- A step that only says whether there was a value. -/
def next? (g : Generator) : Option (UInt64 × Generator) := g.next.toOption

/-- The generator that gives zero for ever: the only one without an end. -/
def IsZero (g : Generator) : Prop := g.previous = 0 ∧ g.current = 0

instance (g : Generator) : Decidable g.IsZero := inferInstanceAs (Decidable (_ ∧ _))

/-- A generator as it is shown to a person who inspects it. -/
def describe (g : Generator) : String :=
  "Fibonacci \x7b previous: " ++ g.previous.toNat.repr ++ ", current: " ++ g.current.toNat.repr ++
    ", produced: " ++ g.produced.toNat.repr ++ " \x7d"

variable {g g' : Generator} {v : UInt64} {o : Overflow}

/-- A call fails if the sum of the halves takes more than 64 bits, and names the number of values so
far. -/
theorem next_eq_error_iff :
    g.next = .error o ↔ UInt64.size ≤ g.previous.toNat + g.current.toNat ∧ o = ⟨g.produced⟩ := by
  unfold next
  split
  · rename_i sum h
    have hs := checkedAdd_eq_some_iff.1 h
    have := sum.toNat_lt
    have : UInt64.size = 2 ^ 64 := rfl
    simp only [reduceCtorEq, false_iff, not_and]
    omega
  · rename_i h
    simp [checkedAdd_eq_none_iff.1 h, eq_comm]

/-- A call that succeeds gives the first half and moves on by one. -/
theorem next_eq_ok_iff :
    g.next = .ok (v, g') ↔ v = g.previous ∧ g'.previous = g.current ∧
      g'.current.toNat = g.previous.toNat + g.current.toNat ∧ g'.produced = g.produced + 1 := by
  unfold next
  split
  · rename_i sum h
    have hs := checkedAdd_eq_some_iff.1 h
    constructor
    · rintro ⟨⟩
      exact ⟨rfl, rfl, hs, rfl⟩
    · rintro ⟨rfl, h₁, h₂, h₃⟩
      cases g'
      simp_all [← UInt64.toNat_inj]
  · rename_i h
    have hs := checkedAdd_eq_none_iff.1 h
    have := g'.current.toNat_lt
    have : UInt64.size = 2 ^ 64 := rfl
    simp only [reduceCtorEq, false_iff]
    omega

theorem next?_eq_some_iff : g.next? = some (v, g') ↔ g.next = .ok (v, g') := by
  unfold next?
  cases g.next <;> simp [Except.toOption]

theorem next?_eq_none_iff :
    g.next? = none ↔ UInt64.size ≤ g.previous.toNat + g.current.toNat := by
  unfold next? next
  split
  · rename_i sum h
    have hs := checkedAdd_eq_some_iff.1 h
    have := sum.toNat_lt
    have : UInt64.size = 2 ^ 64 := rfl
    simp only [Except.toOption, reduceCtorEq, false_iff]
    omega
  · rename_i h
    simp [Except.toOption, checkedAdd_eq_none_iff.1 h]

end Generator

end OpeningTerms
