import Mathlib.Data.Nat.Count
import OpeningTerms.Proofs.Recurrence

/-!
# Calls

A *call* is a step taken in place: a step that fails leaves the generator alone, so there is
a generator to call again. Calls that succeed move it on from place to place, and the others
do not, so that it stands at the place that counts the calls that succeeded
(`isAt_afterCalls`). Once a call has failed, all fail (`callsOk_eq_or`).

* `isOk_call_iff`: a call succeeds exactly when the term two places after the one that it
  is to give is a word, whatever came before;
* `call_closed_form`: what a call gives and what it leaves, by the Fibonacci numbers.
-/

namespace OpeningTerms

namespace Generator

/-- A call: what the step came to, and the generator afterwards. -/
def call (g : Generator) : Except Overflow UInt64 × Generator :=
  match g.next with
  | .ok (v, g') => (.ok v, g')
  | .error o => (.error o, g)

/-- The generator after a number of calls. -/
def afterCalls (g : Generator) : ℕ → Generator
  | 0 => g
  | n + 1 => (afterCalls g n).call.2

/-- How many of the first `n` calls succeed. -/
def callsOk (g : Generator) (n : ℕ) : ℕ := n.count fun i => (g.afterCalls i).call.1.isOk

variable {g g' : Generator} {s : Seed} {k : ℕ}

theorem call_of_next_eq_ok {v : UInt64} (h : g.next = .ok (v, g')) : g.call = (.ok v, g') := by
  rw [call, h]

theorem call_of_next_eq_error {o : Overflow} (h : g.next = .error o) : g.call = (.error o, g) := by
  rw [call, h]

theorem IsAt.call_eq_ok (h : g.IsAt s k) (hk : s.term (k + 2) < 2 ^ 64) :
    g.call.1 = .ok g.previous ∧ g.call.2.IsAt s (k + 1) := by
  obtain ⟨g', hg, hg'⟩ := h.next_eq_ok hk
  rw [call_of_next_eq_ok hg]
  exact ⟨rfl, hg'⟩

theorem IsAt.call_eq_error (h : g.IsAt s k) (hk : 2 ^ 64 ≤ s.term (k + 2)) :
    g.call = (.error ⟨.ofNat k⟩, g) :=
  call_of_next_eq_error (h.next_eq_error hk)

theorem callsOk_succ (g : Generator) (n : ℕ) :
    g.callsOk (n + 1) = g.callsOk n + if (g.afterCalls n).call.1.isOk then 1 else 0 :=
  Nat.count_succ _ _

theorem callsOk_le (g : Generator) (n : ℕ) : g.callsOk n ≤ n := Nat.count_le _

/-- All calls succeed if each of them does. -/
theorem callsOk_eq_iff (g : Generator) (n : ℕ) :
    g.callsOk n = n ↔ ∀ i < n, (g.afterCalls i).call.1.isOk := Nat.count_iff_forall

/-- Calls can be made in two goes. -/
theorem afterCalls_add (g : Generator) (m n : ℕ) :
    g.afterCalls (m + n) = (g.afterCalls m).afterCalls n := by
  induction n with
  | zero => rfl
  | succ n ih => rw [← Nat.add_assoc, afterCalls, ih, afterCalls]

/-- Calls are counted in two parts, the second from where the first has come to. -/
theorem callsOk_add (g : Generator) (m n : ℕ) :
    g.callsOk (m + n) = g.callsOk m + (g.afterCalls m).callsOk n := by
  rw [callsOk, Nat.count_add]
  simp only [afterCalls_add]
  rfl

/-! ## Calls from the start of a sequence -/

variable (s) (n : ℕ)

/-- After some calls, the generator stands at the place that counts those that succeeded. -/
theorem isAt_afterCalls : ((ofSeed s).afterCalls n).IsAt s ((ofSeed s).callsOk n) := by
  induction n with
  | zero => exact isAt_ofSeed s
  | succ n ih =>
    rw [callsOk_succ, afterCalls]
    by_cases hk : s.term ((ofSeed s).callsOk n + 2) < 2 ^ 64
    · obtain ⟨h₁, h₂⟩ := ih.call_eq_ok hk
      rw [h₁]
      exact h₂
    · rw [ih.call_eq_error (not_lt.1 hk)]
      exact ih

/-- If all calls have succeeded, this is the place of their number. -/
theorem isAt_afterCalls_of_isOk (h : ∀ i < n, ((ofSeed s).afterCalls i).call.1.isOk) :
    ((ofSeed s).afterCalls n).IsAt s n := by
  have hat := isAt_afterCalls s n
  rwa [(callsOk_eq_iff (ofSeed s) n).2 h] at hat

/-- Either all calls have succeeded, or the generator stands at the end of the words. -/
theorem callsOk_eq_or : (ofSeed s).callsOk n = n ∨ 2 ^ 64 ≤ s.term ((ofSeed s).callsOk n + 2) := by
  induction n with
  | zero => exact .inl rfl
  | succ n ih =>
    have hn := isAt_afterCalls s n
    rw [callsOk_succ]
    by_cases hk : s.term ((ofSeed s).callsOk n + 2) < 2 ^ 64
    · -- The call succeeds, so none of those before has failed.
      rw [(hn.call_eq_ok hk).1, ih.resolve_right (not_le.2 hk)]
      exact .inl rfl
    · rw [hn.call_eq_error (not_lt.1 hk)]
      exact .inr (not_lt.1 hk)

/-- A call succeeds exactly when the term two places after the one that it is to give is a
    word. -/
theorem isOk_call_iff : ((ofSeed s).afterCalls n).call.1.isOk ↔ s.term (n + 2) < 2 ^ 64 := by
  have hn := isAt_afterCalls s n
  constructor
  · intro h
    by_cases hk : s.term ((ofSeed s).callsOk n + 2) < 2 ^ 64
    · rwa [(callsOk_eq_or s n).resolve_right (not_le.2 hk)] at hk
    · -- Whether or not a call before has failed, this one does.
      rw [hn.call_eq_error (not_lt.1 hk)] at h
      cases h
  · intro h
    have hk := s.term_lt_of_le (Nat.add_le_add_right (callsOk_le (ofSeed s) n) 2) h
    rw [(hn.call_eq_ok hk).1]
    rfl

/-- As long as calls succeed, they go from place to place. -/
theorem callsOk_eq (h : s.term (n + 2) < 2 ^ 64) : (ofSeed s).callsOk n = n :=
  (callsOk_eq_or s n).resolve_right <| not_le.2 <|
    s.term_lt_of_le (Nat.add_le_add_right (callsOk_le (ofSeed s) n) 2) h

/-- The call number `n`, counted from zero, in closed form. It succeeds exactly when the sum
    that it forms is a word. Then it gives the term `n` and leaves the two after it; else it
    tells how many calls have succeeded, and changes nothing. -/
theorem call_closed_form (s : Seed) (n : ℕ) (hn : n < 2 ^ 64 - 1) :
    let p := s.previous.toNat
    let c := s.current.toNat
    let g := (ofSeed s).afterCalls n
    let fits := p * (n + 1).fib + c * (n + 2).fib < 2 ^ 64
    (g.call.1.isOk ↔ fits) ∧
      (n = 0 → (g.call.1 = .ok s.previous ↔ p + c < 2 ^ 64)) ∧
      (1 ≤ n → fits → ∃ v, g.call.1 = .ok v ∧ v.toNat = p * (n - 1).fib + c * n.fib) ∧
      (fits → g.call.2.previous.toNat = p * n.fib + c * (n + 1).fib ∧
        g.call.2.current.toNat = p * (n + 1).fib + c * (n + 2).fib ∧
        g.call.2.produced.toNat = n + 1) ∧
      (¬ fits → ∃ o, g.call = (.error o, g) ∧ o.produced.toNat = (ofSeed s).callsOk n) := by
  intro p c g fits
  have hfits : fits ↔ s.term (n + 2) < 2 ^ 64 := by rw [Seed.term_succ]
  have hat := isAt_afterCalls s n
  have hok : fits → g.IsAt s n := fun h => callsOk_eq s n (hfits.1 h) ▸ hat
  refine ⟨(isOk_call_iff s n).trans hfits.symm, ?_, ?_, ?_, ?_⟩
  · rintro rfl
    constructor
    · intro h
      exact (isOk_call_iff s 0).1 (by rw [show ((ofSeed s).afterCalls 0).call.1 = _ from h]; rfl)
    · exact fun h => ((isAt_ofSeed s).call_eq_ok h).1
  · intro h₁ h
    refine ⟨_, ((hok h).call_eq_ok (hfits.1 h)).1, ?_⟩
    obtain ⟨m, rfl⟩ : ∃ m, n = m + 1 := ⟨n - 1, by omega⟩
    rw [(hok h).previous_eq, Seed.term_succ]
    rfl
  · intro h
    have h' := ((hok h).call_eq_ok (hfits.1 h)).2
    rw [h'.previous_eq, h'.current_eq, Seed.term_succ, Seed.term_succ]
    exact ⟨rfl, rfl, h'.produced_toNat (by omega)⟩
  · intro h
    -- If no call has failed before, this one is the first to fail; else the generator has been
    -- at the end of the words since the first that failed.
    have hend : 2 ^ 64 ≤ s.term ((ofSeed s).callsOk n + 2) := by
      rcases callsOk_eq_or s n with he | he
      · rw [he]
        exact not_lt.1 fun h' => h (hfits.2 h')
      · exact he
    refine ⟨_, hat.call_eq_error hend, ?_⟩
    have hlt : (ofSeed s).callsOk n < 2 ^ 64 := (callsOk_le _ n).trans_lt (by omega)
    exact UInt64.toNat_ofNat_of_lt hlt

/-- From a descending seed near the end of the words, the second call still gives the small
    value, and the third fails, which counts the two before. -/
theorem call_closed_form_descending :
    let s : Seed := ⟨0x8000000000000000, 0x2000000000000000⟩
    (1 < 2 ^ 64 - 1 ∧
        ∃ v, ((ofSeed s).afterCalls 1).call.1 = .ok v ∧ v.toNat = 0x2000000000000000) ∧
      2 < 2 ^ 64 - 1 ∧ ∃ o, ((ofSeed s).afterCalls 2).call = (.error o, (ofSeed s).afterCalls 2) ∧
        o.produced.toNat = 2 := by
  intro s
  obtain ⟨-, -, h₁, -⟩ := call_closed_form s 1 (by decide)
  obtain ⟨v, hv, hv'⟩ := h₁ le_rfl (by decide)
  obtain ⟨-, -, -, -, h₂⟩ := call_closed_form s 2 (by decide)
  obtain ⟨o, ho, ho'⟩ := h₂ (by decide)
  exact ⟨⟨by decide, v, hv, hv'.trans (by decide)⟩, by decide, o, ho, ho'.trans (by decide)⟩

end Generator

end OpeningTerms
