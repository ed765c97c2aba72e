import Mathlib.Order.Bounds.Defs
import OpeningTerms.Proofs.Ascent

/-!
# Thresholds

Where the values to come ascend, a limit cuts them into those below and those above it, and a search
that stops at the first value beyond the limit has seen all the others
(`takeWhile_eq_filter_of_pairwise`, `isLeast_of_find?`). It goes through the values as they come, so
it has pulled the value that it stops at. Where there is none, it has come to the end, which is where
a sum would leave the words: the pair there is never given, be it beyond the limit or not.

* `Workbench.cut_at_limit`: the values up to a limit, and the first from a limit on.
-/

namespace OpeningTerms

/-! ## Words in ascending order -/

section

variable {vs : List UInt64} {p : UInt64 → Bool} {limit v : UInt64}

/-- In ascending order, what comes before the first word beyond a limit is all that is not beyond
    it. -/
theorem takeWhile_eq_filter_of_pairwise (h : vs.Pairwise (· ≤ ·)) (limit : UInt64) :
    vs.takeWhile (· ≤ limit) = vs.filter (· ≤ limit) := by
  induction vs with
  | nil => rfl
  | cons v vs ih =>
    obtain ⟨hv, hvs⟩ := List.pairwise_cons.1 h
    by_cases hle : v ≤ limit
    · rw [List.takeWhile_cons_of_pos (by simpa using hle),
        List.filter_cons_of_pos (by simpa using hle), ih hvs]
    · -- The words after `v` are no smaller than `v`.
      have hnone : ∀ w ∈ v :: vs, ¬ decide (w ≤ limit) = true := by
        simp only [decide_eq_true_eq, List.forall_mem_cons]
        exact ⟨hle, fun w hw hwl => hle (UInt64.le_trans (hv w hw) hwl)⟩
      rw [List.takeWhile_cons_of_neg (by simpa using hle), List.filter_eq_nil_iff.2 hnone]

/-- In ascending order, the first word from a limit on is the least of these. -/
theorem isLeast_of_find? (h : vs.Pairwise (· ≤ ·))
    (hv : vs.find? (fun v => decide (limit ≤ v)) = some v) :
    IsLeast {w | w ∈ vs ∧ limit ≤ w} v := by
  obtain ⟨hlimit, before, after, rfl, hbefore⟩ := List.find?_eq_some_iff_append.1 hv
  refine ⟨⟨List.mem_append_right _ List.mem_cons_self, of_decide_eq_true hlimit⟩, ?_⟩
  rintro w ⟨hw, hle⟩
  -- A word before the one that is found is below the limit; one after it is no smaller.
  rcases List.mem_append.1 hw with hw | hw
  · exact absurd hle (by simpa using hbefore w hw)
  · rcases List.mem_cons.1 hw with rfl | hw
    · exact UInt64.le_refl w
    · exact (List.pairwise_cons.1 (List.pairwise_append.1 h).2.1).1 w hw

/-- As many words are passed before one is found as come before its first occurrence. -/
theorem length_takeWhile_of_find? (hv : vs.find? p = some v) :
    (vs.takeWhile fun w => !p w).length = vs.idxOf v := by
  obtain ⟨hp, before, after, rfl, hbefore⟩ := List.find?_eq_some_iff_append.1 hv
  have hnew : v ∉ before := by
    intro hmem
    have := hbefore v hmem
    rw [hp] at this
    cases this
  rw [List.takeWhile_append_of_pos hbefore, List.takeWhile_cons_of_neg (by simp [hp]),
    List.append_nil, List.idxOf_append_of_notMem hnew, List.idxOf_cons_self, Nat.add_zero]

end

/-! ## Programs -/

namespace Workbench

open Generator

variable {b : Workbench} {i : ℕ} {g : Generator} {R : List UInt64}

/-- The values up to a limit. Where there is a value beyond it, this value is lost. -/
theorem perform_takeWhileLe (hi : b.generators[i]? = some g) (hR : g.toCome = .ofList R)
    (hsorted : R.Pairwise (· ≤ ·)) (limit : UInt64) :
    ∃ g', b.perform (.act i (.takeWhileLe limit)) =
        some (.values (R.filter (· ≤ limit)), i, b.put i g') ∧
      ((∃ v ∈ R, limit < v) → g.MovesOn ((R.filter (· ≤ limit)).length + 1) g') ∧
      ((∀ v ∈ R, v ≤ limit) → g.MovesOn R.length g' ∧ g'.next? = none) := by
  obtain ⟨r, hr, hpassed, hfound⟩ := exists_search hR fun v => !decide (v ≤ limit)
  simp only [Bool.not_not] at hpassed
  rw [takeWhile_eq_filter_of_pairwise hsorted] at hpassed
  have hmoves := movesOn_search hr
  rw [Search.pulled, List.length_append, hpassed] at hmoves
  refine ⟨r.rest, ?_, fun hbeyond => ?_, fun hall => ?_⟩
  · rw [perform_act hi, Action.takeWhileLe, act, searched, hr, ← hpassed]
    rfl
  · have hsome : r.found.isSome := by
      rw [hfound, List.find?_isSome]
      simpa using hbeyond
    obtain ⟨v, hv⟩ := Option.isSome_iff_exists.1 hsome
    rw [hv] at hmoves
    exact_mod_cast hmoves
  · have hnone : r.found = none := by
      rw [hfound, List.find?_eq_none]
      simpa [UInt64.not_lt] using hall
    rw [hnone, List.filter_eq_self.2 (by simpa using hall)] at hmoves
    exact ⟨hmoves, next?_rest_of_search hr hnone⟩

/-- The first value from a limit on. -/
theorem perform_findGe (hi : b.generators[i]? = some g) (hR : g.toCome = .ofList R)
    (hsorted : R.Pairwise (· ≤ ·)) (limit : UInt64) :
    ∃ found g', b.perform (.act i (.findGe limit)) = some (.value found, i, b.put i g') ∧
      (∀ v, found = some v →
        IsLeast {w | w ∈ R ∧ limit ≤ w} v ∧ g.MovesOn (R.idxOf v + 1) g') ∧
      (found = none ↔ ∀ v ∈ R, v < limit) ∧ (found = none → g'.next? = none) := by
  obtain ⟨r, hr, hpassed, hfound⟩ := exists_search hR fun v => decide (limit ≤ v)
  refine ⟨r.found, r.rest, ?_, fun v hv => ?_, ?_, next?_rest_of_search hr⟩
  · rw [perform_act hi, Action.findGe, act, searched, hr]
    rfl
  · have hmoves := movesOn_search hr
    have hv' := hfound.symm.trans hv
    rw [Search.pulled, List.length_append, hpassed, length_takeWhile_of_find? hv', hv] at hmoves
    exact ⟨isLeast_of_find? hsorted hv', by exact_mod_cast hmoves⟩
  · rw [hfound, List.find?_eq_none]
    simp [UInt64.not_le]

/-- From a pair that ascends and is not of zeros, the values to come are a list. Those of them up
    to a limit are found as they come, and the generator moves on by their number and one if there
    are others, or to its end. So is the least from a limit on, right after which the generator
    stands then; if there is none, the generator is at its end. -/
theorem cut_at_limit (hi : b.generators[i]? = some g) (hle : g.previous ≤ g.current)
    (hz : ¬ (g.previous = 0 ∧ g.current = 0)) (limit : UInt64) :
    ∃ R : List UInt64, g.toCome = .ofList R ∧
      (∃ g', b.perform (.act i (.takeWhileLe limit)) =
          some (.values (R.filter (· ≤ limit)), i, b.put i g') ∧
        ((∃ v ∈ R, limit < v) → g.MovesOn ((R.filter (· ≤ limit)).length + 1) g') ∧
        ((∀ v ∈ R, v ≤ limit) → g.MovesOn R.length g' ∧ g'.next? = none)) ∧
      ∃ found g', b.perform (.act i (.findGe limit)) = some (.value found, i, b.put i g') ∧
        (∀ v, found = some v →
          IsLeast {w | w ∈ R ∧ limit ≤ w} v ∧ g.MovesOn (R.idxOf v + 1) g') ∧
        (found = none ↔ ∀ v ∈ R, v < limit) ∧ (found = none → g'.next? = none) := by
  obtain ⟨R, hR⟩ := exists_toCome_eq_ofList hz
  have hsorted : R.Pairwise (· ≤ ·) := pairwise_of_ofList (hR ▸ pairwise_toCome hle)
  exact ⟨R, hR, perform_takeWhileLe hi hR hsorted limit, perform_findGe hi hR hsorted limit⟩

/-- The value 2⁶¹ comes twice, and 2⁶² is lost. There is a pair beyond it, which is never given. -/
theorem cut_at_limit_twice :
    let g : Generator := ⟨0x2000000000000000, 0x2000000000000000, 1⟩
    let b : Workbench := ⟨[g]⟩
    b.generators[0]? = some g ∧ g.previous ≤ g.current ∧ ¬ (g.previous = 0 ∧ g.current = 0) ∧
      ∃ g', b.perform (.act 0 (.takeWhileLe 0x2000000000000000)) =
          some (.values [0x2000000000000000, 0x2000000000000000], 0, b.put 0 g') ∧
        g.MovesOn 3 g' := by
  intro g b
  have hle : g.previous ≤ g.current := by decide
  have hz : ¬ (g.previous = 0 ∧ g.current = 0) := by decide
  obtain ⟨R, hR, ⟨g', hperform, hbeyond, -⟩, -⟩ :=
    cut_at_limit (b := b) (i := 0) (g := g) rfl hle hz 0x2000000000000000
  have hvalues : g.toCome =
      .ofList [0x2000000000000000, 0x2000000000000000, 0x4000000000000000] := by
    have h₁ : g.next? = some (0x2000000000000000, ⟨0x2000000000000000, 0x4000000000000000, 2⟩) := by
      decide
    have h₂ : Generator.next? ⟨0x2000000000000000, 0x4000000000000000, 2⟩ =
        some (0x2000000000000000, ⟨0x4000000000000000, 0x6000000000000000, 3⟩) := by decide
    have h₃ : Generator.next? ⟨0x4000000000000000, 0x6000000000000000, 3⟩ =
        some (0x4000000000000000, ⟨0x6000000000000000, 0xa000000000000000, 4⟩) := by decide
    rw [toCome_of_some h₁, toCome_of_some h₂, toCome_of_some h₃, toCome_of_none (by decide)]
    simp
  obtain rfl := Stream'.Seq.ofList_injective (hR.symm.trans hvalues)
  exact ⟨rfl, hle, hz, g', hperform, hbeyond (by decide)⟩

end Workbench

end OpeningTerms
