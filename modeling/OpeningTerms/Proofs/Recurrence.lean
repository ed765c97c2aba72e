import Mathlib.Data.Nat.Fib.Basic
import Mathlib.Tactic.NormNum.NatFib
import Mathlib.Tactic.NormNum.Ineq
import OpeningTerms.Sequence.Generator

/-!
# The sequence of a seed

Over the natural numbers every sum exists, and the sequence of a seed goes on for ever
(`Seed.term`). A generator works with words. It stands *at a place* of the sequence
(`Generator.IsAt`) if it holds the terms at this place and at the next one, and counts the
terms before. A step takes it from one place to the next, as long as the term after the two
that it holds is a word (`IsAt.next_eq_ok`); and where that is not a word, it fails
(`IsAt.next_eq_error`).

The seed need not be ordered, so the sequence may begin with a descent. From the second term
on it does not descend any more (`Seed.term_le_term`): a term that is a word has only words
before it (`Seed.term_lt_of_le`), and a step that fails is followed by failures only.

* `Seed.term_succ`: the terms by the Fibonacci numbers;
* `IsAt.lt_of_ne_zero`: only the generator of zeros gets beyond place 93.
-/

namespace OpeningTerms

attribute [ext] Seed Generator

namespace Seed

variable (s : Seed)

/-- The terms of the sequence of `s`, as natural numbers. -/
def term : ℕ → ℕ
  | 0 => s.previous.toNat
  | 1 => s.current.toNat
  | n + 2 => term n + term (n + 1)

@[simp] theorem term_zero : s.term 0 = s.previous.toNat := rfl

@[simp] theorem term_one : s.term 1 = s.current.toNat := rfl

theorem term_add_two (n : ℕ) : s.term (n + 2) = s.term n + s.term (n + 1) := rfl

/-- From the second term on, every term is at least the one before it. -/
theorem term_le_term {m n : ℕ} (hm : 1 ≤ m) (h : m ≤ n) : s.term m ≤ s.term n := by
  induction n, h using Nat.le_induction with
  | base => exact le_rfl
  | succ n hmn ih =>
    obtain ⟨k, rfl⟩ : ∃ k, n = k + 1 := ⟨n - 1, by omega⟩
    exact ih.trans (by rw [term_add_two]; exact Nat.le_add_left _ _)

/-- Before a term that is a word, there are only words. -/
theorem term_lt_of_le {m n : ℕ} (h : m ≤ n) (hn : s.term n < 2 ^ 64) : s.term m < 2 ^ 64 := by
  rcases Nat.eq_zero_or_pos m with rfl | hm
  · exact s.previous.toNat_lt
  · exact (s.term_le_term hm h).trans_lt hn

/-- The terms by the Fibonacci numbers. -/
theorem term_succ (n : ℕ) :
    s.term (n + 1) = s.previous.toNat * n.fib + s.current.toNat * (n + 1).fib := by
  induction n using Nat.twoStepInduction with
  | zero => simp
  | one => simp [term_add_two]
  | more n ih₁ ih₂ =>
    have h₂ : (n + 2).fib = n.fib + (n + 1).fib := Nat.fib_add_two
    have h₃ : (n + 3).fib = (n + 1).fib + (n + 2).fib := Nat.fib_add_two
    rw [term_add_two, ih₁, ih₂, h₃, h₂]
    ring

/-- All terms of the sequence of zeros are zero. -/
theorem term_zeros (n : ℕ) : (⟨0, 0⟩ : Seed).term n = 0 := by
  induction n using Nat.twoStepInduction with
  | zero => rfl
  | one => rfl
  | more n ih₁ ih₂ => rw [term_add_two, ih₁, ih₂]

theorem eq_zeros_iff : s = ⟨0, 0⟩ ↔ s.previous.toNat = 0 ∧ s.current.toNat = 0 := by
  obtain ⟨p, c⟩ := s
  rw [Seed.mk.injEq, ← UInt64.toNat_inj, ← UInt64.toNat_inj]
  rfl

/-- The sequence of a seed other than `(0, 0)` grows as fast as the Fibonacci numbers. -/
theorem fib_le_term (hs : s ≠ ⟨0, 0⟩) (n : ℕ) : n.fib ≤ s.term (n + 1) := by
  rw [term_succ]
  -- One of the two summands is at least `n.fib`: the second one, if the seed begins with zero.
  by_cases hp : s.previous.toNat = 0
  · have hc : s.current.toNat ≠ 0 := fun hc => hs (s.eq_zeros_iff.2 ⟨hp, hc⟩)
    calc n.fib ≤ (n + 1).fib := Nat.fib_le_fib_succ
      _ ≤ s.current.toNat * (n + 1).fib := Nat.le_mul_of_pos_left _ (Nat.pos_of_ne_zero hc)
      _ ≤ _ := Nat.le_add_left _ _
  · calc n.fib ≤ s.previous.toNat * n.fib := Nat.le_mul_of_pos_left _ (Nat.pos_of_ne_zero hp)
      _ ≤ _ := Nat.le_add_right _ _

/-- The terms of a sequence other than that of zeros leave the words by the term 95. -/
theorem lt_of_term_lt (hs : s ≠ ⟨0, 0⟩) {n : ℕ} (hn : s.term (n + 1) < 2 ^ 64) : n < 94 := by
  -- The Fibonacci number 94 is the first that is not a word.
  have hfib : n.fib < (94 : ℕ).fib := by
    calc n.fib ≤ s.term (n + 1) := s.fib_le_term hs n
      _ < 2 ^ 64 := hn
      _ ≤ (94 : ℕ).fib := by norm_num
  exact lt_of_not_ge fun h => absurd hfib (not_lt.2 (Nat.fib_mono h))

end Seed

namespace Generator

/-- `g` stands at the place `k` of the sequence of `s`: it holds the terms `k` and `k + 1`,
    and has given `k` values. -/
structure IsAt (g : Generator) (s : Seed) (k : ℕ) : Prop where
  previous_eq : g.previous.toNat = s.term k
  current_eq : g.current.toNat = s.term (k + 1)
  produced_eq : g.produced = .ofNat k

theorem isAt_ofSeed (s : Seed) : (ofSeed s).IsAt s 0 := ⟨rfl, rfl, rfl⟩

namespace IsAt

variable {g g' : Generator} {s : Seed} {k : ℕ}

/-- A generator holds words, so all terms up to the second one that it holds are words. -/
theorem term_lt (h : g.IsAt s k) {i : ℕ} (hi : i ≤ k + 1) : s.term i < 2 ^ 64 :=
  s.term_lt_of_le hi (h.current_eq ▸ g.current.toNat_lt)

theorem produced_toNat (h : g.IsAt s k) (hk : k < 2 ^ 64) : g.produced.toNat = k := by
  rw [h.produced_eq]
  exact UInt64.toNat_ofNat_of_lt hk

/-- Where the next sum is a word, a step gives the term at this place and goes on to the
    next one. -/
theorem next_eq_ok (h : g.IsAt s k) (hk : s.term (k + 2) < 2 ^ 64) :
    ∃ g', g.next = .ok (g.previous, g') ∧ g'.IsAt s (k + 1) := by
  refine ⟨⟨g.current, .ofNat (s.term (k + 2)), g.produced + 1⟩, ?_, h.current_eq, ?_, ?_⟩
  · rw [next_eq_ok_iff]
    refine ⟨rfl, rfl, ?_, rfl⟩
    rw [h.previous_eq, h.current_eq]
    exact UInt64.toNat_ofNat_of_lt hk
  · exact UInt64.toNat_ofNat_of_lt hk
  · rw [h.produced_eq]
    exact (UInt64.ofNat_add k 1).symm

/-- Where the next sum is not a word, a step fails. -/
theorem next_eq_error (h : g.IsAt s k) (hk : 2 ^ 64 ≤ s.term (k + 2)) :
    g.next = .error ⟨.ofNat k⟩ := by
  rw [next_eq_error_iff, h.previous_eq, h.current_eq]
  exact ⟨hk, by rw [h.produced_eq]⟩

/-- A step that succeeds goes on to the next place. -/
theorem of_next (h : g.IsAt s k) {v : UInt64} (hg : g.next = .ok (v, g')) :
    v.toNat = s.term k ∧ s.term (k + 2) < 2 ^ 64 ∧ g'.IsAt s (k + 1) := by
  by_cases hk : s.term (k + 2) < 2 ^ 64
  · obtain ⟨g'', h₁, h₂⟩ := h.next_eq_ok hk
    obtain ⟨rfl, rfl⟩ : g.previous = v ∧ g'' = g' := by simpa [h₁] using hg
    exact ⟨h.previous_eq, hk, h₂⟩
  · rw [h.next_eq_error (not_lt.1 hk)] at hg
    cases hg

/-- Whether there is a value to come. -/
theorem next?_eq_none_iff (h : g.IsAt s k) : g.next? = none ↔ 2 ^ 64 ≤ s.term (k + 2) := by
  rw [Generator.next?_eq_none_iff, h.previous_eq, h.current_eq]
  exact Iff.rfl

/-- Only the generator of zeros gets beyond place 93. -/
theorem lt_of_ne_zero (h : g.IsAt s k) (hs : s ≠ ⟨0, 0⟩) : k < 94 :=
  s.lt_of_term_lt hs (h.term_lt le_rfl)

end IsAt

end Generator

end OpeningTerms
