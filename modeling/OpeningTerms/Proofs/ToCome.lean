import Mathlib.Data.Seq.Basic
import OpeningTerms.Proofs.Ends
import OpeningTerms.Proofs.Exhaustion

/-!
# The values to come

The values that a generator still gives are one sequence (`Generator.toCome`), which ends where a
step fails. It does not depend on how they are pulled: to take some of them is to cut off the
beginning of the sequence (`take_toCome`), and leaves the rest of it (`toCome_take`). What a way to
pull has consumed is thus told by a number, that of the values by which it has moved the generator on
(`Generator.MovesOn`).

* `natCast_length_take`: as many values are taken as are asked for, and as there are;
* `movesOn_take`: by so many values the generator moves on;
* `terminates_toCome_iff`: the sequence is finite but for zeros;
* `exists_search`: what a search finds in a finite one.
-/

namespace OpeningTerms.Generator

variable {g g' : Generator} {v : UInt64} {n : ℕ}

/-- The values still to come, in order. -/
def toCome (g : Generator) : Stream'.Seq UInt64 := .corec next? g

theorem toCome_of_none (hg : g.next? = none) : g.toCome = .nil := Stream'.Seq.corec_nil _ _ hg

theorem toCome_of_some (hg : g.next? = some (v, g')) : g.toCome = .cons v g'.toCome :=
  Stream'.Seq.corec_cons hg

theorem toCome_eq_nil_iff : g.toCome = .nil ↔ g.next? = none := by
  rcases hg : g.next? with _ | ⟨v, g'⟩
  · simp [toCome_of_none hg]
  · simp [toCome_of_some hg]

/-- A generator with a value to come gives it, and has the rest to come then. -/
theorem exists_of_toCome_eq_cons {vs : Stream'.Seq UInt64} (h : g.toCome = .cons v vs) :
    ∃ g', g.next? = some (v, g') ∧ g'.toCome = vs := by
  rcases hg : g.next? with _ | ⟨w, g'⟩
  · rw [toCome_of_none hg] at h
    exact absurd h Stream'.Seq.nil_ne_cons
  · rw [toCome_of_some hg] at h
    obtain ⟨rfl, hvs⟩ := Stream'.Seq.cons_eq_cons.1 h
    exact ⟨g', rfl, hvs⟩

/-! ## Taking -/

/-- The values that are taken are the first ones. -/
theorem take_toCome (g : Generator) (n : ℕ) : g.toCome.take n = (g.take n).1 := by
  induction n generalizing g with
  | zero => rfl
  | succ n ih =>
    rcases hg : g.next? with _ | ⟨v, g'⟩
    · rw [toCome_of_none hg, take_of_none hg, Stream'.Seq.take_nil]
    · rw [toCome_of_some hg, take_succ_of_some hg, Stream'.Seq.take_succ_cons, ih]

/-- The others are still to come. -/
theorem toCome_take (g : Generator) (n : ℕ) : (g.take n).2.toCome = g.toCome.drop n := by
  induction n generalizing g with
  | zero => rfl
  | succ n ih =>
    rcases hg : g.next? with _ | ⟨v, g'⟩
    · rw [take_of_none hg, toCome_of_none hg, Stream'.Seq.drop_nil]
    · rw [toCome_of_some hg, take_succ_of_some hg, Stream'.Seq.drop_succ_cons, ih]

theorem getElem?_take (g : Generator) (n i : ℕ) :
    (g.take n).1[i]? = if i < n then g.toCome.get? i else none := by
  rw [← take_toCome, Stream'.Seq.getElem?_take]

/-- As many values are taken as are asked for, and as there are. -/
theorem natCast_length_take (g : Generator) (n : ℕ) :
    ((g.take n).1.length : ℕ∞) = min (n : ℕ∞) g.toCome.length' := by
  induction n generalizing g with
  | zero => simp
  | succ n ih =>
    rcases hg : g.next? with _ | ⟨v, g'⟩
    · simp [toCome_of_none hg, take_of_none hg]
    · rw [toCome_of_some hg, take_succ_of_some hg, Stream'.Seq.length'_cons, List.length_cons,
        Nat.cast_succ, Nat.cast_succ, ih, min_add_add_right]

/-! ## How far a generator has moved -/

/-- From `g` to `g'`, the generator has moved on by `n` values: it has been called so many times,
    and all calls have succeeded. -/
def MovesOn (g : Generator) (n : ℕ∞) (g' : Generator) : Prop :=
  ∃ k : ℕ, (k : ℕ∞) = n ∧ g.callsOk k = k ∧ g.afterCalls k = g'

/-- To take values is to make calls. -/
theorem afterCalls_eq_take (g : Generator) (n : ℕ) : g.afterCalls n = (g.take n).2 := by
  induction n generalizing g with
  | zero => rfl
  | succ n ih =>
    rw [afterCalls_succ, ih]
    rcases hg : g.next? with _ | ⟨v, g'⟩
    · rw [call_of_next_eq_error (next_of_none hg), take_of_none hg, take_of_none hg]
    · rw [call_of_next_eq_ok (next?_eq_some_iff.1 hg), take_succ_of_some hg]

/-- The calls that succeed are those that give a value. -/
theorem callsOk_eq_length_take (g : Generator) (n : ℕ) :
    g.callsOk n = (g.take n).1.length := by
  induction n generalizing g with
  | zero => rfl
  | succ n ih =>
    have hone : g.callsOk 1 = if g.call.1.isOk then 1 else 0 := by
      rw [callsOk_succ]
      exact Nat.zero_add _
    rw [Nat.add_comm, callsOk_add, hone, ih, Nat.add_comm 1]
    change _ + (g.call.2.take n).1.length = _
    rcases hg : g.next? with _ | ⟨v, g'⟩
    · rw [call_of_next_eq_error (next_of_none hg), take_of_none hg, take_of_none hg]
      rfl
    · rw [call_of_next_eq_ok (next?_eq_some_iff.1 hg), take_succ_of_some hg, List.length_cons,
        Nat.add_comm]
      rfl

/-- To take values moves the generator on by those that there are. -/
theorem movesOn_take (g : Generator) (n : ℕ) :
    g.MovesOn (min (n : ℕ∞) g.toCome.length') (g.take n).2 := by
  refine ⟨(g.take n).1.length, natCast_length_take g n, ?_, ?_⟩
  · rw [callsOk_eq_length_take, take_length_take]
  · rw [afterCalls_eq_take, take_length_take]

/-! ## The end -/

/-- The length of the sequence is the number of values to come. -/
theorem length'_toCome (g : Generator) : g.toCome.length' = g.yield := by
  refine ENat.eq_of_forall_natCast_le_iff fun n => ?_
  rw [coe_le_yield_iff, ← Nat.cast_inj (R := ℕ∞), natCast_length_take, min_eq_left_iff]

theorem terminates_toCome_iff_yield : g.toCome.Terminates ↔ g.yield ≠ ⊤ := by
  rw [← length'_toCome]
  constructor
  · intro h
    rw [Stream'.Seq.length'_of_terminates h]
    exact ENat.natCast_ne_top _
  · intro h
    by_contra hend
    exact h (Stream'.Seq.length'_of_not_terminates hend)

/-- A step from values other than zeros leads to values other than zeros. -/
theorem not_isZero_of_next? (hg : g.next? = some (v, g')) (hz : ¬ g.IsZero) : ¬ g'.IsZero := by
  obtain ⟨-, hprevious, hsum, -⟩ := next_eq_ok_iff.1 (next?_eq_some_iff.1 hg)
  rintro ⟨hp, hc⟩
  rw [hp] at hprevious
  rw [hc, ← hprevious] at hsum
  exact hz ⟨UInt64.toNat_inj.1 hsum.symm, hprevious.symm⟩

/-- Only zeros come without end. -/
theorem terminates_toCome_iff : g.toCome.Terminates ↔ ¬ g.IsZero := by
  constructor
  · rw [terminates_toCome_iff_yield]
    intro h hz
    exact h (ENat.eq_top_iff_forall_ge.2 fun n => (coe_le_yield_iff n).2 (hz.length_take n))
  · intro hz
    -- There is less room with every step.
    induction hroom : g.room using Nat.strong_induction_on generalizing g with
    | _ m ih =>
      subst hroom
      rcases hg : g.next? with _ | ⟨v, g'⟩
      · rw [toCome_of_none hg]
        exact Stream'.Seq.terminates_nil
      · rw [toCome_of_some hg, Stream'.Seq.terminates_cons_iff]
        exact ih _ (room_lt hg hz) (not_isZero_of_next? hg hz) rfl

/-- Values other than zeros are a list. -/
theorem exists_toCome_eq_ofList (hz : ¬ g.IsZero) : ∃ vs : List UInt64, g.toCome = .ofList vs :=
  ⟨_, (Stream'.Seq.ofList_toList _ (terminates_toCome_iff.2 hz)).symm⟩

/-! ## Searching -/

variable {vs : List UInt64} {p : UInt64 → Bool} {r : Search}

theorem length'_ofList (vs : List UInt64) : (Stream'.Seq.ofList vs).length' = vs.length := by
  induction vs with
  | nil => simp
  | cons v vs ih => rw [Stream'.Seq.ofList_cons, Stream'.Seq.length'_cons, ih, List.length_cons,
      Nat.cast_succ]

/-- A search among finitely many values passes those before the first that it accepts. -/
theorem exists_search (h : g.toCome = .ofList vs) (p : UInt64 → Bool) :
    ∃ r, g.search p = some r ∧ r.passed = vs.takeWhile (fun v => !p v) ∧ r.found = vs.find? p := by
  induction vs generalizing g with
  | nil =>
    rw [Stream'.Seq.ofList_nil, toCome_eq_nil_iff] at h
    exact ⟨_, search_of_none h p, rfl, rfl⟩
  | cons v vs ih =>
    have hz : ¬ g.IsZero := terminates_toCome_iff.1 (h ▸ Stream'.Seq.terminates_ofList _)
    rw [Stream'.Seq.ofList_cons] at h
    obtain ⟨g', hg, h'⟩ := exists_of_toCome_eq_cons h
    obtain ⟨r, hr, hpassed, hfound⟩ := ih h'
    fun_cases search p g with
    | case1 hg' => cases hg'.symm.trans hg
    | case2 w g'' hg' hp =>
      cases hg'.symm.trans hg
      exact ⟨_, rfl, by simp [hp], by simp [hp]⟩
    | case3 w g'' hg' hp hz' => exact absurd hz' hz
    | case4 w g'' hg' hp hz' =>
      cases hg'.symm.trans hg
      rw [hr]
      exact ⟨_, rfl, by simp [hp, hpassed], by simp [hp, hfound]⟩

/-- A search moves the generator on by the values that it has pulled. -/
theorem movesOn_search (h : g.search p = some r) : g.MovesOn r.pulled.length r.rest := by
  have htake : g.take r.pulled.length = (r.pulled, r.rest) := by
    rw [← search_spec h, searchLength, h]
    rfl
  refine ⟨_, rfl, ?_, ?_⟩
  · rw [callsOk_eq_length_take, htake]
  · rw [afterCalls_eq_take, htake]

end OpeningTerms.Generator
