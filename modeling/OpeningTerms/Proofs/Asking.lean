import OpeningTerms.Proofs.Output
import OpeningTerms.Proofs.Yield

/-!
# What a run asks for

A run asks its generator for one value after the other. `runAsking` is the run with a record beside
it of the generators that are asked, and is otherwise the same (`runAsking_fst`). The first to be
asked is the one at the start of the sequence, and each further one is what the call before it has
left, if that call has succeeded (`asked_runAsking`).

* `length_runAsking_le`: from a seed other than `(0, 0)`, a run asks 94 times at most.
-/

namespace OpeningTerms

namespace Generator

variable {g g' : Generator} {v : UInt64} {n : ℕ} {gs : List Generator}

/-- The first of some calls can be made beforehand. -/
theorem afterCalls_succ (g : Generator) (n : ℕ) : g.afterCalls (n + 1) = g.call.2.afterCalls n := by
  rw [Nat.add_comm, afterCalls_add]
  rfl

/-- `gs` are the generators on which at most `n` calls are made from `g` on, one after the other.
    There is no further call once one has failed. -/
structure Asked (g : Generator) (n : ℕ) (gs : List Generator) : Prop where
  length_le : gs.length ≤ n
  eq_map : gs = (List.range gs.length).map g.afterCalls
  isOk : ∀ i, i + 1 < gs.length → (g.afterCalls i).call.1.isOk

theorem Asked.nil (g : Generator) (n : ℕ) : g.Asked n [] :=
  ⟨Nat.zero_le n, rfl, fun _ hi => absurd hi (Nat.not_lt_zero _)⟩

theorem Asked.singleton (g : Generator) (n : ℕ) : g.Asked (n + 1) [g] :=
  ⟨Nat.succ_le_succ (Nat.zero_le n), rfl, fun i hi => absurd hi (by simp)⟩

/-- A call that succeeds, and then the others. -/
theorem Asked.cons (hg : g.next = .ok (v, g')) (h : g'.Asked n gs) : g.Asked (n + 1) (g :: gs) where
  length_le := Nat.succ_le_succ h.length_le
  eq_map := by
    have hafter (i : ℕ) : g.afterCalls (i + 1) = g'.afterCalls i := by
      rw [afterCalls_succ, call_of_next_eq_ok hg]
    rw [List.length_cons, List.range_succ_eq_map, List.map_cons, List.map_map]
    simp only [Function.comp_def, Nat.succ_eq_add_one, hafter]
    rw [← h.eq_map, afterCalls]
  isOk i hi := by
    cases i with
    | zero =>
      rw [afterCalls, call_of_next_eq_ok hg]
      rfl
    | succ i =>
      rw [afterCalls_succ, call_of_next_eq_ok hg]
      exact h.isOk i (Nat.lt_of_succ_lt_succ hi)

/-- Each generator that is asked is left by less calls than there are in all. -/
theorem Asked.exists_of_mem (h : g.Asked n gs) (hg' : g' ∈ gs) : ∃ i < n, g' = g.afterCalls i := by
  rw [h.eq_map, List.mem_map] at hg'
  obtain ⟨i, hi, rfl⟩ := hg'
  exact ⟨i, (List.mem_range.1 hi).trans_le h.length_le, rfl⟩

end Generator

namespace Progress

variable {σ : Type} [Sink σ]

/-- Writes a number of terms, and records which generators are asked for a value. -/
def writeTermsAsking : ℕ → Progress σ → (Progress σ × Option RunError) × List Generator
  | 0, p => ((p, none), [])
  | left + 1, p =>
    match p.generator.next with
    | .error o => ((p, some (.produce p.written o)), [p.generator])
    | .ok (v, g) =>
      let q := { p.tell (.term p.written v) with generator := g }
      match Sink.writeAll q.sink (pieces v) with
      | (s, some fault) => (({ q with sink := s }, some (.write fault)), [p.generator])
      | (s, none) =>
        let (r, asked) := writeTermsAsking left { q with sink := s, written := q.written + 1 }
        (r, p.generator :: asked)

/-- The record is only kept beside. -/
theorem writeTermsAsking_fst (n : ℕ) (p : Progress σ) :
    (writeTermsAsking n p).1 = writeTerms n p := by
  induction n generalizing p with
  | zero => rfl
  | succ n ih =>
    rw [writeTermsAsking, writeTerms]
    rcases p.generator.next with o | ⟨v, g⟩
    · rfl
    · rcases hw : Sink.writeAll p.sink (pieces v) with ⟨w, _ | fault⟩
      · simp only [tell, hw]
        exact ih _
      · simp only [tell, hw]

/-- To write terms is to call as long as calls succeed. -/
theorem asked_writeTermsAsking (n : ℕ) (p : Progress σ) :
    p.generator.Asked n (writeTermsAsking n p).2 := by
  induction n generalizing p with
  | zero => exact .nil _ _
  | succ n ih =>
    rw [writeTermsAsking]
    rcases hg : p.generator.next with o | ⟨v, g⟩
    · exact .singleton _ _
    · rcases hw : Sink.writeAll p.sink (pieces v) with ⟨w, _ | fault⟩
      · simp only [tell, hw]
        exact .cons hg (ih { p.tell (.term p.written v) with
          generator := g, sink := w, written := p.written + 1 })
      · simp only [tell, hw]
        exact .singleton _ _

end Progress

/-- The run that the settings ask for, with a record of the generators that are asked. -/
def runAsking {σ : Type} [Sink σ] (s : Settings) (sink : σ) :
    (Progress σ × Option RunError) × List Generator :=
  match Progress.writeTermsAsking s.terms.toNat (.start s sink) with
  | ((p, some e), asked) => ((p, some e), asked)
  | ((p, none), asked) => (p.finish s.terms, asked)

section

variable {σ : Type} [Sink σ] (cfg : Settings) (w : σ)

/-- The run with a record is the run. -/
theorem runAsking_fst : (runAsking cfg w).1 = run cfg w := by
  rw [runAsking, run, ← Progress.start, ← Progress.writeTermsAsking_fst]
  generalize Progress.writeTermsAsking cfg.terms.toNat (.start cfg w) = r
  obtain ⟨⟨p, _ | e⟩, asked⟩ := r
  · rfl
  · rfl

theorem runAsking_snd :
    (runAsking cfg w).2 = (Progress.writeTermsAsking cfg.terms.toNat (.start cfg w)).2 := by
  rw [runAsking]
  generalize Progress.writeTermsAsking cfg.terms.toNat (.start cfg w) = r
  obtain ⟨⟨p, _ | e⟩, asked⟩ := r
  · rfl
  · rfl

/-- A run calls as long as calls succeed, and as there are terms to be written. -/
theorem asked_runAsking :
    (Generator.ofSeed cfg.seed).Asked cfg.terms.toNat (runAsking cfg w).2 := by
  rw [runAsking_snd]
  exact Progress.asked_writeTermsAsking cfg.terms.toNat (.start cfg w)

/-- From a seed other than `(0, 0)`, a run calls 94 times at most: the last call fails. -/
theorem length_runAsking_le (hs : cfg.seed ≠ ⟨0, 0⟩) : (runAsking cfg w).2.length ≤ 94 := by
  by_contra hlt
  have hok := (asked_runAsking cfg w).isOk 93 (by omega)
  rw [← Seed.coe_lt_yield_iff] at hok
  exact absurd (Seed.yield_le hs) (not_le.2 hok)

end

end OpeningTerms
