import OpeningTerms.Proofs.Calls
import OpeningTerms.Sequence.Workbench

/-!
# Where a generator comes from

A step loses nothing: what was the second value of the pair is the first one now, and the value that
was given is the difference of the two. So a step that succeeds can be taken back in one way only
(`eq_of_next_eq_ok`), and so can any number of calls that succeed (`eq_of_afterCalls_eq`). Different
sequences may well come to the same pair, but not after the same number of calls, and this number is
what a generator counts.

* `afterCalls_beq_iff`: when two generators compare equal.
-/

namespace OpeningTerms

namespace Generator

variable {g g' k : Generator} {v v' : UInt64} {s s' : Seed} {n n' : ℕ}

/-- Two generators that a step takes to the same one are the same. -/
theorem eq_of_next_eq_ok (hg : g.next = .ok (v, k)) (hg' : g'.next = .ok (v', k)) : g = g' := by
  obtain ⟨-, hprevious, hsum, hproduced⟩ := next_eq_ok_iff.1 hg
  obtain ⟨-, hprevious', hsum', hproduced'⟩ := next_eq_ok_iff.1 hg'
  have hcurrent : g.current = g'.current := hprevious.symm.trans hprevious'
  rw [hcurrent] at hsum
  exact Generator.ext (UInt64.toNat_inj.1 (Nat.add_right_cancel (hsum.symm.trans hsum'))) hcurrent
    ((UInt64.add_left_inj 1).1 (hproduced.symm.trans hproduced'))

theorem exists_next_of_isOk (h : g.call.1.isOk) : ∃ v, g.next = .ok (v, g.call.2) := by
  rcases hg : g.next with o | ⟨v, g'⟩
  · rw [call_of_next_eq_error hg] at h
    cases h
  · rw [call_of_next_eq_ok hg]
    exact ⟨v, rfl⟩

/-- Two generators that the same number of calls takes to the same one are the same, if all calls
    have succeeded. -/
theorem eq_of_afterCalls_eq (hg : ∀ i < n, (g.afterCalls i).call.1.isOk)
    (hg' : ∀ i < n, (g'.afterCalls i).call.1.isOk) (h : g.afterCalls n = g'.afterCalls n) :
    g = g' := by
  induction n with
  | zero => exact h
  | succ n ih =>
    -- The last call is taken back first.
    obtain ⟨v, hv⟩ := exists_next_of_isOk (hg n n.lt_succ_self)
    obtain ⟨v', hv'⟩ := exists_next_of_isOk (hg' n n.lt_succ_self)
    rw [← afterCalls] at hv hv'
    rw [h] at hv
    exact ih (fun i hi => hg i (Nat.lt_succ_of_lt hi)) (fun i hi => hg' i (Nat.lt_succ_of_lt hi))
      (eq_of_next_eq_ok hv hv')

theorem ofSeed_injective (h : ofSeed s = ofSeed s') : s = s' :=
  Seed.ext (congrArg (·.previous) h) (congrArg (·.current) h)

/-- What some calls, all of which have succeeded, have made of a seed tells the seed and the number
    of calls. -/
theorem afterCalls_ofSeed_eq_iff (hn : n < 2 ^ 64) (hn' : n' < 2 ^ 64)
    (h : ∀ i < n, ((ofSeed s).afterCalls i).call.1.isOk)
    (h' : ∀ i < n', ((ofSeed s').afterCalls i).call.1.isOk) :
    (ofSeed s).afterCalls n = (ofSeed s').afterCalls n' ↔ s = s' ∧ n = n' := by
  constructor
  · intro heq
    have hcount : n = n' := by
      rw [← (isAt_afterCalls_of_isOk s n h).produced_toNat hn, heq,
        (isAt_afterCalls_of_isOk s' n' h').produced_toNat hn']
    subst hcount
    exact ⟨ofSeed_injective (eq_of_afterCalls_eq h h' heq), rfl⟩
  · rintro ⟨rfl, rfl⟩
    rfl

/-- Two generators, each of which is left by calls that have all succeeded, compare equal exactly
    when they come from the same seed by the same number of calls. So does a workbench that holds
    them answer. -/
theorem afterCalls_beq_iff (hn : n < 2 ^ 64) (hn' : n' < 2 ^ 64)
    (h : ∀ i < n, ((ofSeed s).afterCalls i).call.1.isOk)
    (h' : ∀ i < n', ((ofSeed s').afterCalls i).call.1.isOk) :
    let g := (ofSeed s).afterCalls n
    let g' := (ofSeed s').afterCalls n'
    ((g == g') = true ↔ s = s' ∧ n = n') ∧
      ∀ (b : Workbench) (i j : ℕ), b.generators[i]? = some g → b.generators[j]? = some g' →
        b.perform (.act i (.compare j)) = some (.truth (decide (s = s' ∧ n = n')), i, b) := by
  intro g g'
  have heq : g = g' ↔ s = s' ∧ n = n' := afterCalls_ofSeed_eq_iff hn hn' h h'
  refine ⟨beq_iff_eq.trans heq, fun b i j hi hj => ?_⟩
  simp only [Workbench.perform, Workbench.act, hi, hj, heq, Option.bind_eq_bind, Option.bind_some,
    Option.map_some]

/-- The standard sequence and that of `(1, 2)` come to the pair `(5, 8)`, but by different numbers
    of calls, so that the generators there differ. -/
theorem afterCalls_beq_iff_same_pair :
    let g := (ofSeed .standard).afterCalls 5
    let g' := (ofSeed ⟨1, 2⟩).afterCalls 3
    ((5 < 2 ^ 64 ∧ ∀ i < 5, ((ofSeed .standard).afterCalls i).call.1.isOk) ∧
        3 < 2 ^ 64 ∧ ∀ i < 3, ((ofSeed ⟨1, 2⟩).afterCalls i).call.1.isOk) ∧
      g.previous = g'.previous ∧ g.current = g'.current ∧ ¬ (g == g') = true := by
  intro g g'
  have h : ∀ i < 5, ((ofSeed .standard).afterCalls i).call.1.isOk := by decide
  have h' : ∀ i < 3, ((ofSeed ⟨1, 2⟩).afterCalls i).call.1.isOk := by decide
  obtain ⟨heq, -⟩ := afterCalls_beq_iff (by decide) (by decide) h h'
  exact ⟨⟨⟨by decide, h⟩, by decide, h'⟩, by decide, by decide, fun hbeq =>
    absurd (heq.1 hbeq).2 (by decide)⟩

end Generator

end OpeningTerms
