import OpeningTerms.Proofs.Calls
import OpeningTerms.Proofs.Delivery

/-!
# Going on from a pair

What a generator gives depends on the pair that it holds, and not on what it has counted. At any
place of a sequence it goes on as a generator would that starts with this pair as its seed: the one
at the place is *ahead* of the one that starts by the values that it has given (`Generator.Ahead`),
and remains so with every step, whether it succeeds (`Ahead.call`).

So the terms of a run can be written by two runs, of which the second one starts from the pair at
which the first one has ended (`Settings.output_eq_append`). If terms are missing, they are the same
ones, but with a number that is counted from there (`Settings.failure_eq_map_later`).

* `run_resumes`: what comes after some calls from a seed, and runs that are split there.
-/

namespace OpeningTerms

/-- The overflow that is reported where `m` values more have been given. -/
def Overflow.later (o : Overflow) (m : ℕ) : Overflow := ⟨o.produced + .ofNat m⟩

/-! ## Generators -/

namespace Generator

/-- The pair that a generator holds, as the seed of a sequence. -/
def pair (g : Generator) : Seed := ⟨g.previous, g.current⟩

/-- `g` is ahead of `g'` by `m` values: it holds the same pair, and has counted as many more. -/
structure Ahead (m : ℕ) (g g' : Generator) : Prop where
  previous_eq : g.previous = g'.previous
  current_eq : g.current = g'.current
  produced_eq : g.produced = g'.produced + .ofNat m

variable {m n k : ℕ} {g g' h : Generator} {s : Seed}

namespace Ahead

variable (ha : Ahead m g g')

include ha

/-- A generator that is ahead gives the same value, and stays ahead. -/
theorem next_of_ok {v : UInt64} (hg' : g'.next = .ok (v, h)) :
    ∃ k, g.next = .ok (v, k) ∧ Ahead m k h := by
  obtain ⟨hvalue, hprevious, hsum, hproduced⟩ := next_eq_ok_iff.1 hg'
  refine ⟨⟨h.previous, h.current, h.produced + .ofNat m⟩, next_eq_ok_iff.2 ?_, rfl, rfl, rfl⟩
  -- The sum is that of the same pair; the counts go up by one on either side.
  refine ⟨hvalue.trans ha.previous_eq.symm, hprevious.trans ha.current_eq.symm, ?_, ?_⟩
  · rw [ha.previous_eq, ha.current_eq]
    exact hsum
  · rw [ha.produced_eq, hproduced, UInt64.add_assoc, UInt64.add_assoc, UInt64.add_comm 1]

/-- A generator that is ahead fails where the other does, and counts its head start. -/
theorem next_of_error {o : Overflow} (hg' : g'.next = .error o) :
    g.next = .error (o.later m) := by
  obtain ⟨hsum, rfl⟩ := next_eq_error_iff.1 hg'
  rw [next_eq_error_iff, ha.previous_eq, ha.current_eq, ha.produced_eq]
  exact ⟨hsum, rfl⟩

/-- Calls of both come to the same, but for what an overflow reports, and one remains ahead of the
    other. -/
theorem call : g.call.1 = g'.call.1.mapError (·.later m) ∧ Ahead m g.call.2 g'.call.2 := by
  rcases hg' : g'.next with o | ⟨v, h⟩
  · rw [call_of_next_eq_error hg', call_of_next_eq_error (ha.next_of_error hg')]
    exact ⟨rfl, ha⟩
  · obtain ⟨k, hk, hak⟩ := ha.next_of_ok hg'
    rw [call_of_next_eq_ok hg', call_of_next_eq_ok hk]
    exact ⟨rfl, hak⟩

theorem afterCalls (n : ℕ) : Ahead m (g.afterCalls n) (g'.afterCalls n) := by
  induction n with
  | zero => exact ha
  | succ n ih => exact ih.call.2

theorem callsOk_eq (n : ℕ) : g.callsOk n = g'.callsOk n := by
  induction n with
  | zero => rfl
  | succ n ih =>
    rw [callsOk_succ, callsOk_succ, ih, (ha.afterCalls n).call.1]
    cases (g'.afterCalls n).call.1 with
    | error o => rfl
    | ok v => rfl

/-- The values that are taken from both are the same. -/
theorem take (n : ℕ) : (g.take n).1 = (g'.take n).1 ∧ Ahead m (g.take n).2 (g'.take n).2 := by
  induction n generalizing g g' with
  | zero => exact ⟨rfl, ha⟩
  | succ n ih =>
    rcases hg' : g'.next with o | ⟨v, h⟩
    · rw [take_of_none (next?_eq_none_iff.2 (next_eq_error_iff.1 hg').1),
        take_of_none (next?_eq_none_iff.2 (next_eq_error_iff.1 (ha.next_of_error hg')).1)]
      exact ⟨rfl, ha⟩
    · obtain ⟨k, hk, hak⟩ := ha.next_of_ok hg'
      obtain ⟨hvalues, hlast⟩ := ih hak
      rw [take_succ_of_some (next?_eq_some_iff.2 hg'), take_succ_of_some (next?_eq_some_iff.2 hk),
        hvalues]
      exact ⟨rfl, hlast⟩

end Ahead

namespace IsAt

/-- At a place of a sequence, a generator is ahead of one that starts with the pair there. -/
theorem ahead (hg : g.IsAt s m) : Ahead m g (ofSeed g.pair) :=
  ⟨rfl, rfl, hg.produced_eq.trans (UInt64.zero_add _).symm⟩

/-- There is one generator only at a place. -/
theorem eq (hg : g.IsAt s m) (hg' : g'.IsAt s m) : g = g' :=
  Generator.ext (UInt64.toNat_inj.1 (hg.previous_eq.trans hg'.previous_eq.symm))
    (UInt64.toNat_inj.1 (hg.current_eq.trans hg'.current_eq.symm))
    (hg.produced_eq.trans hg'.produced_eq.symm)

/-- A call that fails reports the place, which is not far from the start. -/
theorem produced_of_call_eq_error (hg : g.IsAt s m) {o : Overflow} (ho : g.call.1 = .error o) :
    o.produced.toNat = m := by
  by_cases hend : 2 ^ 64 ≤ s.term (m + 2)
  · rw [hg.call_eq_error hend] at ho
    cases ho
    -- Zeros never end, so a sequence with an end has it early, and a word holds the place.
    have hs : s ≠ ⟨0, 0⟩ := by
      rintro rfl
      rw [Seed.term_zeros] at hend
      exact absurd hend (by decide)
    exact UInt64.toNat_ofNat_of_lt ((hg.lt_of_ne_zero hs).trans (by decide))
  · rw [(hg.call_eq_ok (not_le.1 hend)).1] at ho
    cases ho

end IsAt

section

variable (hm : ∀ i < m, ((ofSeed s).afterCalls i).call.1.isOk)

include hm

/-- To make calls that all succeed is to take as many values. -/
theorem take_of_isOk :
    ((ofSeed s).take m).1.length = m ∧ ((ofSeed s).take m).2 = (ofSeed s).afterCalls m := by
  have hat := isAt_afterCalls_of_isOk s m hm
  -- A value is there if the sum after it is; this is what a successful call says.
  have hlength : ((ofSeed s).take m).1.length = m := by
    rw [(isAt_ofSeed s).length_take_eq_iff, Nat.zero_add]
    exact hat.term_lt le_rfl
  have htake := (isAt_ofSeed s).take m
  rw [hlength, Nat.zero_add] at htake
  exact ⟨hlength, htake.eq hat⟩

/-- What is taken beyond these values could be taken from the pair there. -/
theorem take_add_of_isOk (n : ℕ) :
    let g' := ofSeed ((ofSeed s).afterCalls m).pair
    ((ofSeed s).take (m + n)).1 = ((ofSeed s).take m).1 ++ (g'.take n).1 ∧
      Ahead m ((ofSeed s).take (m + n)).2 (g'.take n).2 := by
  intro g'
  obtain ⟨hvalues, hlast⟩ := (isAt_afterCalls_of_isOk s m hm).ahead.take n
  rw [take_add, (take_of_isOk hm).2, hvalues]
  exact ⟨rfl, hlast⟩

/-- After calls that have all succeeded, a generator goes on as one that starts with the pair
    there, but an overflow reports the values from the start. -/
theorem call_after_of_isOk (i : ℕ) :
    let r := (((ofSeed s).afterCalls m).afterCalls i).call.1
    let r' := ((ofSeed ((ofSeed s).afterCalls m).pair).afterCalls i).call.1
    (∀ v, r = .ok v ↔ r' = .ok v) ∧
      ∀ k, (∃ o, r = .error o ∧ o.produced.toNat = k + m) ↔
        ∃ o, r' = .error o ∧ o.produced.toNat = k := by
  intro r r'
  have ha := (isAt_afterCalls_of_isOk s m hm).ahead
  have hr : r = r'.mapError (·.later m) := (ha.afterCalls i).call.1
  rcases hr' : r' with o | v
  · rw [hr'] at hr
    -- Each of the two reports how many calls have succeeded from its start.
    have hproduced : (o.later m).produced.toNat = o.produced.toNat + m := by
      have hat := isAt_afterCalls s (m + i)
      rw [callsOk_add, (callsOk_eq_iff _ _).2 hm, ha.callsOk_eq, afterCalls_add] at hat
      rw [hat.produced_of_call_eq_error hr, (isAt_afterCalls _ i).produced_of_call_eq_error hr',
        Nat.add_comm]
    rw [hr]
    simp [Except.mapError, hproduced]
  · rw [hr'] at hr
    rw [hr]
    simp [Except.mapError]

end

end Generator

/-! ## Runs -/

/-- The failure that is reported where `m` terms more have been written. -/
def RunError.later (m : ℕ) : RunError → RunError
  | .produce index cause => .produce (m + index) (cause.later m)
  | e => e

namespace Settings

/-- The settings ask for `n` terms of the sequence of `s`. -/
def AskFor (cfg : Settings) (n : ℕ) (s : Seed) : Prop := cfg.terms.toNat = n ∧ cfg.seed = s

variable {cfg cfg₁ cfg₂ : Settings} {s : Seed} {m n : ℕ}

theorem AskFor.output_eq (h : cfg.AskFor n s) :
    cfg.output = lines (((Generator.ofSeed s).take n).1.map (·.toNat)) := by
  rw [output, h.1, h.2]

theorem AskFor.failure_eq (h : cfg.AskFor n s) :
    cfg.failure = Progress.failureAfter n 0 ((Generator.ofSeed s).take n) := by
  rw [failure, h.1, h.2]

section

variable (hm : ∀ i < m, ((Generator.ofSeed s).afterCalls i).call.1.isOk)

include hm

/-- Of terms that are known to exist, none is missing. -/
theorem failure_eq_none (h₁ : cfg₁.AskFor m s) : cfg₁.failure = none :=
  h₁.failure_eq.trans (if_pos (Generator.take_of_isOk hm).1)

/-- The terms in two parts, the second of which starts from the pair after the first one. -/
theorem output_eq_append (h : cfg.AskFor (m + n) s) (h₁ : cfg₁.AskFor m s)
    (h₂ : cfg₂.AskFor n ((Generator.ofSeed s).afterCalls m).pair) :
    cfg.output = cfg₁.output ++ cfg₂.output := by
  rw [h.output_eq, h₁.output_eq, h₂.output_eq, (Generator.take_add_of_isOk hm n).1, List.map_append,
    lines_append]

/-- The terms that are missing are those that the second part misses. -/
theorem failure_eq_map_later (h : cfg.AskFor (m + n) s)
    (h₂ : cfg₂.AskFor n ((Generator.ofSeed s).afterCalls m).pair) :
    cfg.failure = cfg₂.failure.map (·.later m) := by
  obtain ⟨hvalues, hlast⟩ := Generator.take_add_of_isOk hm n
  rw [h.failure_eq, h₂.failure_eq, Progress.failureAfter, Progress.failureAfter, hvalues,
    hlast.produced_eq, List.length_append, (Generator.take_of_isOk hm).1, Nat.zero_add,
    Nat.zero_add]
  simp only [Nat.add_left_cancel_iff]
  split_ifs
  · rfl
  · rfl

end

end Settings

/-- From a seed from which the first `m` calls succeed, the generator goes on as one that starts
    with the pair there: the calls give the same values, and fail at the same time, where one
    reports `m` values more than the other. So a run of `m + n` terms, on a sink that never fails,
    writes what a run of `m` terms does and after it what one of `n` terms from this pair does; it
    succeeds when the second one does, and else misses the same term, with `m` added to its
    number. -/
theorem run_resumes {σ : Type} [Sink σ] {Ready : σ → Prop} {text : σ → String} {flushes : σ → ℕ}
    (hσ : Sink.Reliable Ready text flushes) {s : Seed} {m : ℕ}
    (hm : ∀ i < m, ((Generator.ofSeed s).afterCalls i).call.1.isOk) :
    let g := (Generator.ofSeed s).afterCalls m
    let g' := Generator.ofSeed g.pair
    (∀ i v, (g.afterCalls i).call.1 = .ok v ↔ (g'.afterCalls i).call.1 = .ok v) ∧
      (∀ i k, (∃ o, (g.afterCalls i).call.1 = .error o ∧ o.produced.toNat = k + m) ↔
        ∃ o, (g'.afterCalls i).call.1 = .error o ∧ o.produced.toNat = k) ∧
      ∀ (n : ℕ) (cfg cfg₁ cfg₂ : Settings) (w w₁ w₂ : σ),
        cfg.AskFor (m + n) s → cfg₁.AskFor m s → cfg₂.AskFor n g.pair →
        Ready w → Ready w₁ → Ready w₂ →
        let r := run cfg w
        let r₁ := run cfg₁ w₁
        let r₂ := run cfg₂ w₂
        (∃ out₁ out₂, text r₁.1.sink = text w₁ ++ out₁ ∧ text r₂.1.sink = text w₂ ++ out₂ ∧
          text r.1.sink = text w ++ (out₁ ++ out₂)) ∧
        r₁.2 = none ∧ (r.2 = none ↔ r₂.2 = none) ∧
        ∀ e, r₂.2 = some e → ∃ i o o', e = .produce i o ∧ r.2 = some (.produce (m + i) o') ∧
          o.produced.toNat = i ∧ o'.produced.toNat = m + i := by
  intro g g'
  refine ⟨fun i => (Generator.call_after_of_isOk hm i).1,
    fun i => (Generator.call_after_of_isOk hm i).2, ?_⟩
  intro n cfg cfg₁ cfg₂ w w₁ w₂ h h₁ h₂ hw hw₁ hw₂ r r₁ r₂
  obtain ⟨hr, htext⟩ : r.2 = cfg.failure ∧ text r.1.sink = text w ++ cfg.output :=
    run_of_reliable hσ cfg hw
  obtain ⟨hr₁, htext₁⟩ : r₁.2 = cfg₁.failure ∧ text r₁.1.sink = text w₁ ++ cfg₁.output :=
    run_of_reliable hσ cfg₁ hw₁
  obtain ⟨hr₂, htext₂⟩ : r₂.2 = cfg₂.failure ∧ text r₂.1.sink = text w₂ ++ cfg₂.output :=
    run_of_reliable hσ cfg₂ hw₂
  have hfailure := Settings.failure_eq_map_later hm h h₂
  -- The sinks drop out: all that is left is about the settings.
  rw [Settings.output_eq_append hm h h₁ h₂] at htext
  rw [Settings.failure_eq_none hm h₁] at hr₁
  refine ⟨⟨_, _, htext₁, htext₂, htext⟩, hr₁, ?_, fun e he => ?_⟩
  · rw [hr, hr₂, hfailure, Option.map_eq_none_iff]
  · rw [hr₂] at he
    obtain ⟨i, o, rfl, ho⟩ := Settings.failure_eq_some he
    rw [he, Option.map_some] at hfailure
    obtain ⟨j, o', hj, ho'⟩ := Settings.failure_eq_some hfailure
    cases hj
    exact ⟨i, o, _, rfl, hr.trans hfailure, ho, ho'⟩

/-- From a descending seed near the end of the words there are two terms. The first one written by
    itself, a run from the pair after it writes the other and misses the next, which has the number
    1 there, but the number 2 in a run that writes all. -/
theorem run_resumes_descending :
    let s : Seed := ⟨0x8000000000000000, 0x2000000000000000⟩
    let s' := ((Generator.ofSeed s).afterCalls 1).pair
    let settings (n : UInt64) (s : Seed) : Settings :=
      { sequence := some { terms := some n, seed := s } }
    let r := run (settings 4 s) ({} : LimitedSink)
    let r₁ := run (settings 1 s) ({} : LimitedSink)
    let r₂ := run (settings 3 s') ({} : LimitedSink)
    (∀ i < 1, ((Generator.ofSeed s).afterCalls i).call.1.isOk) ∧
      ((settings 4 s).AskFor (1 + 3) s ∧ (settings 1 s).AskFor 1 s ∧
        (settings 3 s').AskFor 3 s') ∧
      s' = ⟨0x2000000000000000, 0xa000000000000000⟩ ∧
      r.1.sink.text = r₁.1.sink.text ++ r₂.1.sink.text ∧
      r₂.2 = some (.produce 1 ⟨1⟩) ∧ ∃ o, r.2 = some (.produce 2 o) ∧ o.produced.toNat = 2 := by
  intro s s' settings
  have hm : ∀ i < 1, ((Generator.ofSeed s).afterCalls i).call.1.isOk := by decide
  have h : (settings 4 s).AskFor (1 + 3) s := ⟨rfl, rfl⟩
  have h₁ : (settings 1 s).AskFor 1 s := ⟨rfl, rfl⟩
  have h₂ : (settings 3 s').AskFor 3 s' := ⟨rfl, rfl⟩
  have hready : ({} : LimitedSink).limit = none ∧ ({} : LimitedSink).failsToFlush = false :=
    ⟨rfl, rfl⟩
  obtain ⟨⟨out₁, out₂, htext₁, htext₂, htext⟩, -, -, herror⟩ :=
    (run_resumes LimitedSink.reliable hm).2.2 3 _ _ _ {} {} {} h h₁ h₂ hready hready hready
  have htake : (Generator.ofSeed s').take 3 =
      ([0x2000000000000000], ⟨0xa000000000000000, 0xc000000000000000, 1⟩) := by decide
  have hr₂ : (run (settings 3 s') ({} : LimitedSink)).2 = some (.produce 1 ⟨1⟩) :=
    calc _ = (settings 3 s').failure := (run_of_no_limit (settings 3 s')).2
      _ = Progress.failureAfter 3 0 ((Generator.ofSeed s').take 3) := h₂.failure_eq
      _ = some (.produce 1 ⟨1⟩) := by rw [htake, Progress.failureAfter]; rfl
  obtain ⟨i, o, o', he, hr, -, ho'⟩ := herror _ hr₂
  cases he
  rw [String.empty_append] at htext₁ htext₂ htext
  refine ⟨hm, ⟨h, h₁, h₂⟩, by decide, ?_, hr₂, o', hr, ho'⟩
  rw [htext, htext₁, htext₂]

end OpeningTerms
