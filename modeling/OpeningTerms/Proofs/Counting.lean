import OpeningTerms.Proofs.Asking

/-!
# The count of values

A generator counts the values that it gives in a word, without a check that the word has room for
one more. A step that succeeds while the count is the largest word makes it wrap around
(`Generator.Wraps`). Sequences other than that of zeros end long before. Of zeros it takes as many
calls as there are words, and a run asks for fewer terms.

* `produced_counts`: when the count wraps around, and what it is as long as it does not.
-/

namespace OpeningTerms

namespace Generator

/-- A call succeeds, but a word has no room for one more. -/
def Wraps (g : Generator) : Prop := g.call.1.isOk ∧ UInt64.size ≤ g.produced.toNat + 1

theorem isOk_call_zeros (n : ℕ) : ((ofSeed ⟨0, 0⟩).afterCalls n).call.1.isOk := by
  rw [isOk_call_iff, Seed.term_zeros]
  decide

theorem callsOk_zeros (n : ℕ) : (ofSeed ⟨0, 0⟩).callsOk n = n :=
  (callsOk_eq_iff _ n).2 fun i _ => isOk_call_zeros i

/-- The count wraps around in the sequence of zeros only, with every call the number of which is a
    multiple of the number of words, if calls are numbered from one. -/
theorem wraps_afterCalls_iff (s : Seed) (n : ℕ) :
    ((ofSeed s).afterCalls n).Wraps ↔ s = ⟨0, 0⟩ ∧ 2 ^ 64 ∣ n + 1 := by
  have hat := isAt_afterCalls s n
  have hsize : UInt64.size = 2 ^ 64 := rfl
  by_cases hs : s = ⟨0, 0⟩
  · subst hs
    rw [callsOk_zeros] at hat
    rw [Wraps, hat.produced_eq, UInt64.toNat_ofNat', hsize]
    simp only [isOk_call_zeros, true_and]
    omega
  · have hk := hat.lt_of_ne_zero hs
    have hlt : ((ofSeed s).afterCalls n).produced.toNat < 94 := by
      rwa [hat.produced_toNat (hk.trans (by decide))]
    simp only [Wraps, hs, false_and, iff_false, hsize]
    omega

/-- Of zeros, the count wraps around for the first time with the last of as many calls as there
    are words. -/
theorem isLeast_wraps_zeros :
    IsLeast {i | ((ofSeed ⟨0, 0⟩).afterCalls i).Wraps} (2 ^ 64 - 1) := by
  refine ⟨(wraps_afterCalls_iff _ _).2 ⟨rfl, dvd_rfl⟩, fun i hi => ?_⟩
  have hle := Nat.le_of_dvd (Nat.succ_pos i) ((wraps_afterCalls_iff _ _).1 hi).2
  omega

theorem exists_wraps_iff (s : Seed) (m : ℕ) :
    (∃ i < m, ((ofSeed s).afterCalls i).Wraps) ↔ s = ⟨0, 0⟩ ∧ 2 ^ 64 ≤ m := by
  constructor
  · rintro ⟨i, hi, hw⟩
    obtain ⟨rfl, -⟩ := (wraps_afterCalls_iff _ _).1 hw
    have hle : 2 ^ 64 - 1 ≤ i := isLeast_wraps_zeros.2 hw
    exact ⟨rfl, by omega⟩
  · rintro ⟨rfl, hm⟩
    exact ⟨2 ^ 64 - 1, by omega, isLeast_wraps_zeros.1⟩

/-- As long as it does not wrap around, the count is that of the calls that have succeeded. -/
theorem produced_of_not_wraps {s : Seed} {m : ℕ}
    (hm : ∀ i < m, ¬ ((ofSeed s).afterCalls i).Wraps) :
    ((ofSeed s).afterCalls m).produced.toNat = (ofSeed s).callsOk m := by
  have hat := isAt_afterCalls s m
  refine hat.produced_toNat ?_
  by_cases hs : s = ⟨0, 0⟩
  · -- There are fewer calls than words, so there are fewer values.
    have hlt : m < 2 ^ 64 := not_le.1 fun hle => by
      obtain ⟨i, hi, hw⟩ := (exists_wraps_iff s m).2 ⟨hs, hle⟩
      exact hm i hi hw
    exact (callsOk_le _ m).trans_lt hlt
  · exact (hat.lt_of_ne_zero hs).trans (by decide)

end Generator

section

variable {σ : Type} [Sink σ]

/-- Where a term is missing that is to be written, its number is the count of the generator, as
    a word. -/
theorem Progress.produced_of_writeTerms {s : Seed} {n i : ℕ} {o : Overflow} {p : Progress σ}
    (hp : p.generator.IsAt s p.written) (h : (writeTerms n p).2 = some (.produce i o)) :
    i < p.written + n ∧ o.produced = .ofNat i := by
  induction n generalizing p with
  | zero => cases h
  | succ n ih =>
    rcases hg : p.generator.next with o' | ⟨v, g⟩
    · rw [writeTerms_of_error hg] at h
      obtain ⟨-, rfl⟩ := Generator.next_eq_error_iff.1 hg
      cases h
      exact ⟨by omega, hp.produced_eq⟩
    · obtain ⟨-, -, hg'⟩ := hp.of_next hg
      rcases hw : Sink.writeAll p.sink (pieces v) with ⟨w, _ | fault⟩
      · rw [writeTerms_of_written hg hw] at h
        obtain ⟨hi, ho⟩ := ih (p := { p.tell (.term p.written v) with
          generator := g, sink := w, written := p.written + 1 }) hg' h
        exact ⟨by simp only at hi; omega, ho⟩
      · rw [writeTerms_of_fault hg hw] at h
        cases h

/-- The number of a term that a run misses is the count of its generator. -/
theorem produced_of_run {cfg : Settings} {w : σ} {i : ℕ} {o : Overflow}
    (h : (run cfg w).2 = some (.produce i o)) : o.produced.toNat = i := by
  have hwrite : (Progress.writeTerms cfg.terms.toNat (.start cfg w)).2 = some (.produce i o) := by
    rcases he : (Progress.writeTerms cfg.terms.toNat (.start cfg w)).2 with _ | e
    · -- The sink was flushed, which misses no term.
      rw [(run_of_none he).2] at h
      obtain ⟨_, -, hf⟩ := Option.map_eq_some_iff.1 h
      cases hf
    · rw [← (run_of_some he).2, h]
  obtain ⟨hi, ho⟩ := Progress.produced_of_writeTerms (Generator.isAt_ofSeed cfg.seed) hwrite
  rw [Progress.start_written, Nat.zero_add] at hi
  rw [ho]
  exact UInt64.toNat_ofNat_of_lt (hi.trans cfg.terms.toNat_lt)

/-- A run asks for fewer terms than there are words, so no count wraps around. -/
theorem not_wraps_of_mem_runAsking {cfg : Settings} {w : σ} {g : Generator}
    (hg : g ∈ (runAsking cfg w).2) : ¬ g.Wraps := by
  intro hw
  obtain ⟨i, hi, rfl⟩ := (asked_runAsking cfg w).exists_of_mem hg
  obtain ⟨-, hle⟩ := (Generator.exists_wraps_iff cfg.seed cfg.terms.toNat).1 ⟨i, hi, hw⟩
  exact absurd cfg.terms.toNat_lt (not_lt.2 hle)

/-- The count of a generator wraps around in some of the first `m` calls exactly if they are
    calls for zeros, and as many as there are words, of which the last is the first to do so.
    Otherwise the count is exact. No run makes such a call, so the number of a term that it misses
    is the count of its generator. -/
theorem produced_counts (s : Seed) (m : ℕ) (cfg : Settings) (w : σ) :
    let g := (Generator.ofSeed s).afterCalls
    ((∃ i < m, (g i).Wraps) ↔ s = ⟨0, 0⟩ ∧ 2 ^ 64 ≤ m) ∧
      (s = ⟨0, 0⟩ → IsLeast {i | (g i).Wraps} (2 ^ 64 - 1)) ∧
      ((∀ i < m, ¬ (g i).Wraps) →
        (g m).produced.toNat = m.count fun i => (g i).call.1.isOk) ∧
      (runAsking cfg w).1 = run cfg w ∧ (∀ h ∈ (runAsking cfg w).2, ¬ h.Wraps) ∧
      ∀ e o, (run cfg w).2 = some e → e.overflow? = some o →
        e = .produce o.produced.toNat o ∧
          e.message = "failed to produce term " ++ o.produced.toNat.repr := by
  intro g
  refine ⟨Generator.exists_wraps_iff s m, ?_, Generator.produced_of_not_wraps, runAsking_fst cfg w,
    fun h => not_wraps_of_mem_runAsking, fun e o he ho => ?_⟩
  · rintro rfl
    exact Generator.isLeast_wraps_zeros
  · cases e with
    | produce i o' =>
      obtain rfl : o' = o := Option.some.inj ho
      rw [produced_of_run he]
      exact ⟨rfl, rfl⟩
    | write fault => cases ho
    | flush fault => cases ho

end

end OpeningTerms
