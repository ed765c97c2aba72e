import Mathlib.Data.ENat.Lattice
import Mathlib.Order.CompletePartialOrder
import OpeningTerms.Proofs.Calls
import OpeningTerms.Proofs.Histories

/-!
# How many values there are

The *yield* of a generator is the number of values that are still to come from it: as many as can be
taken, be it without end. At the start of a sequence there are `n` values exactly when the term
`n + 1` is a word (`Seed.coe_le_yield_iff`). This makes the yield smaller where the seed is larger,
and bounds it by that of the seed `(1, 0)`, which grows most slowly; only that of `(0, 0)`, which
does not grow at all, is infinite.

* `Generator.yield_ne_top_iff`: the yield is finite where values are pulled until there are none;
* `Seed.yield_le`, `Seed.yield_eq_iff`: of other seeds it is 93 at most, and 93 once only;
* `Seed.yield_anti`: it does not grow with the seed.
-/

namespace OpeningTerms

/-! ## Generators -/

namespace Generator

variable {g g' : Generator} {s : Seed} {k : ℕ}

/-- The number of values still to come. -/
noncomputable def yield (g : Generator) : ℕ∞ := ⨆ n, ((g.take n).1.length : ℕ∞)

/-- There are `n` values to come exactly when so many can be taken. -/
theorem coe_le_yield_iff (n : ℕ) : (n : ℕ∞) ≤ g.yield ↔ (g.take n).1.length = n := by
  constructor
  · intro h
    by_contra hne
    have hlt : (g.take n).1.length < n := lt_of_le_of_ne (length_take_le g n) hne
    -- However many are asked for, there are no more.
    have hle : g.yield ≤ (g.take n).1.length := by
      refine iSup_le fun m => ?_
      rw [length_take_eq_min hlt m]
      exact_mod_cast min_le_right _ _
    exact absurd (h.trans hle) (by exact_mod_cast not_le.2 hlt)
  · intro h
    calc (n : ℕ∞) = ((g.take n).1.length : ℕ∞) := by rw [h]
      _ ≤ g.yield := le_iSup (fun m => ((g.take m).1.length : ℕ∞)) n

theorem IsAt.coe_le_yield_iff (h : g.IsAt s k) (n : ℕ) :
    (n : ℕ∞) ≤ g.yield ↔ s.term (k + n + 1) < 2 ^ 64 := by
  rw [Generator.coe_le_yield_iff, h.length_take_eq_iff]

/-- The yield is finite exactly when at some time there are no more values. -/
theorem yield_ne_top_iff : g.yield ≠ ⊤ ↔ ∃ n, (g.take n).2.next? = none := by
  constructor
  · intro h
    obtain ⟨n, hn⟩ : ∃ n : ℕ, ¬ (n : ℕ∞) ≤ g.yield := by
      by_contra hall
      push Not at hall
      exact h (ENat.eq_top_iff_forall_ge.2 hall)
    rw [coe_le_yield_iff] at hn
    exact ⟨n, next?_take_eq_none (lt_of_le_of_ne (length_take_le g n) hn)⟩
  · rintro ⟨n, hn⟩ htop
    have hlen : (g.take (n + 1)).1.length = n + 1 := by
      rw [← coe_le_yield_iff, htop]
      exact le_top
    have hend : (g.take (n + 1)).1 = (g.take n).1 := by
      rw [take_add, take_of_none hn]
      exact List.append_nil _
    have hle := length_take_le g n
    rw [hend] at hlen
    omega

/-- Whether a generator ends depends on its seed, not on its place in the sequence. -/
theorem IsAt.yield_eq_top_iff (h : g.IsAt s k) : g.yield = ⊤ ↔ s = ⟨0, 0⟩ := by
  constructor
  · intro htop
    by_contra hs
    have hterm : s.term (k + 94 + 1) < 2 ^ 64 := (h.coe_le_yield_iff 94).1 (htop ▸ le_top)
    exact absurd (s.lt_of_term_lt hs hterm) (by omega)
  · rintro rfl
    refine ENat.eq_top_iff_forall_ge.2 fun n => (h.coe_le_yield_iff n).2 ?_
    rw [Seed.term_zeros]
    decide

end Generator

/-! ## Seeds -/

namespace Seed

variable {s s' : Seed}

/-- The number of values that the sequence of `s` gives. -/
noncomputable def yield (s : Seed) : ℕ∞ := (Generator.ofSeed s).yield

theorem coe_le_yield_iff (n : ℕ) : (n : ℕ∞) ≤ s.yield ↔ s.term (n + 1) < 2 ^ 64 := by
  rw [yield, (Generator.isAt_ofSeed s).coe_le_yield_iff, Nat.zero_add]

/-- The values are those that calls give before the first that fails. -/
theorem coe_lt_yield_iff (n : ℕ) :
    (n : ℕ∞) < s.yield ↔ ((Generator.ofSeed s).afterCalls n).call.1.isOk := by
  rw [Generator.isOk_call_iff, ← ENat.add_one_le_iff (ENat.natCast_ne_top n)]
  exact_mod_cast coe_le_yield_iff (n + 1)

/-- These values are the terms. -/
theorem exists_call_eq_ok {n : ℕ} (h : (n : ℕ∞) < s.yield) :
    ∃ v, ((Generator.ofSeed s).afterCalls n).call.1 = .ok v ∧ v.toNat = s.term n := by
  rw [coe_lt_yield_iff, Generator.isOk_call_iff] at h
  have hat := Generator.isAt_afterCalls s n
  rw [Generator.callsOk_eq s n h] at hat
  exact ⟨_, (hat.call_eq_ok h).1, hat.previous_eq⟩

theorem yield_zeros : (⟨0, 0⟩ : Seed).yield = ⊤ := (Generator.isAt_ofSeed _).yield_eq_top_iff.2 rfl

/-- The terms of a smaller seed are smaller. -/
theorem term_mono (hp : s.previous ≤ s'.previous) (hc : s.current ≤ s'.current) (n : ℕ) :
    s.term n ≤ s'.term n := by
  induction n using Nat.twoStepInduction with
  | zero => exact hp
  | one => exact hc
  | more n ih₁ ih₂ => exact add_le_add ih₁ ih₂

/-- A smaller seed yields no fewer values. -/
theorem yield_anti (hp : s.previous ≤ s'.previous) (hc : s.current ≤ s'.current) :
    s'.yield ≤ s.yield := by
  rw [← ENat.forall_natCast_le_iff_le]
  intro n hn
  rw [coe_le_yield_iff] at hn ⊢
  exact (term_mono hp hc (n + 1)).trans_lt hn

/-- A sequence other than that of zeros gives at most 93 values. -/
theorem yield_le (hs : s ≠ ⟨0, 0⟩) : s.yield ≤ 93 := by
  rw [← ENat.forall_natCast_le_iff_le]
  intro n hn
  rw [coe_le_yield_iff] at hn
  exact_mod_cast Nat.le_of_lt_succ (s.lt_of_term_lt hs hn)

/-- Only the sequence of `(1, 0)` gives so many. -/
theorem yield_eq_iff (hs : s ≠ ⟨0, 0⟩) : s.yield = 93 ↔ s = ⟨1, 0⟩ := by
  have hfib : (93 : ℕ).fib = 12200160415121876738 ∧ (94 : ℕ).fib = 19740274219868223167 := by
    norm_num
  have hterm : s.yield = 93 ↔
      s.previous.toNat * (93 : ℕ).fib + s.current.toNat * (94 : ℕ).fib < 2 ^ 64 := by
    rw [(yield_le hs).ge_iff_eq.symm, ← term_succ]
    exact coe_le_yield_iff 93
  rw [hterm, hfib.1, hfib.2]
  constructor
  · intro h
    rw [ne_eq, eq_zeros_iff] at hs
    obtain ⟨p, c⟩ := s
    have hp : p.toNat = (1 : UInt64).toNat := by
      simp only [UInt64.toNat_one] at hs h ⊢
      omega
    have hc : c.toNat = (0 : UInt64).toNat := by
      simp only [UInt64.toNat_zero] at hs h ⊢
      omega
    rw [UInt64.toNat_inj.1 hp, UInt64.toNat_inj.1 hc]
  · rintro rfl
    decide

end Seed

end OpeningTerms
