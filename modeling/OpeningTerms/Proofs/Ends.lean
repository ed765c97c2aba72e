import OpeningTerms.Proofs.Asking

/-!
# Ends

To drain a generator is to pull values until there are none. This is a search for a value that
there is not, so it comes to an end exactly where the yield is finite (`drain_isSome_iff`): at
every place of every sequence but that of zeros. A run that asks for more terms than there are
comes to its end there as well.

* `isSome_act_iff`: when an action that drains has an answer;
* `ends_unless_zeros`: how many values a sequence gives, and what comes to an end because of it.
-/

namespace OpeningTerms

/-! ## Draining -/

namespace Generator

variable {g : Generator} {p : UInt64 → Bool} {r : Search}

/-- A search that has found nothing has come to the end. -/
theorem next?_rest_of_search (h : g.search p = some r) (hr : r.found = none) :
    r.rest.next? = none := by
  fun_induction search p g generalizing r with
  | case1 g hg =>
    cases h
    exact hg
  | case2 g v g' hg hp =>
    cases h
    cases hr
  | case3 g v g' hg hp hz => cases h
  | case4 g v g' hg hp hz ih =>
    obtain ⟨q, hq, rfl⟩ := Option.map_eq_some_iff.1 h
    have hend : q.rest.next? = none := ih hq hr
    exact hend

/-- What a search has found is accepted. -/
theorem accepts_of_search (h : g.search p = some r) {v : UInt64} (hr : r.found = some v) :
    p v := by
  fun_induction search p g generalizing r with
  | case1 g hg =>
    cases h
    cases hr
  | case2 g v g' hg hp =>
    cases h
    cases hr
    exact hp
  | case3 g v g' hg hp hz => cases h
  | case4 g v g' hg hp hz ih =>
    obtain ⟨q, hq, rfl⟩ := Option.map_eq_some_iff.1 h
    exact ih hq hr

/-- After zeros there are zeros. -/
theorem IsZero.exists_next? (hz : g.IsZero) : ∃ g', g.next? = some (0, g') ∧ g'.IsZero := by
  obtain ⟨previous, current, produced⟩ := g
  obtain ⟨rfl, rfl⟩ := hz
  exact ⟨⟨0, 0, produced + 1⟩, rfl, rfl, rfl⟩

theorem IsZero.length_take (hz : g.IsZero) (n : ℕ) : (g.take n).1.length = n := by
  induction n generalizing g with
  | zero => rfl
  | succ n ih =>
    obtain ⟨g', hg, hz'⟩ := hz.exists_next?
    rw [take_succ_of_some hg, List.length_cons, ih hz']

/-- Where a search has no answer, there are values without end. -/
theorem length_take_of_search_eq_none (h : g.search p = none) (n : ℕ) :
    (g.take n).1.length = n := by
  fun_induction search p g generalizing n with
  | case1 g hg => cases h
  | case2 g v g' hg hp => cases h
  | case3 g v g' hg hp hz => exact hz.length_take n
  | case4 g v g' hg hp hz ih =>
    cases n with
    | zero => rfl
    | succ n => rw [take_succ_of_some hg, List.length_cons, ih (Option.map_eq_none_iff.1 h)]

/-- To drain a generator comes to an end exactly where the yield is finite. -/
theorem drain_isSome_iff : g.drain.isSome ↔ g.yield ≠ ⊤ := by
  rw [drain]
  constructor
  · intro hd
    obtain ⟨r, hr⟩ := Option.isSome_iff_exists.1 hd
    have hfound : r.found = none := by
      rw [Option.eq_none_iff_forall_ne_some]
      intro v hv
      cases accepts_of_search hr hv
    refine yield_ne_top_iff.2 ⟨g.searchLength fun _ => false, ?_⟩
    rw [search_spec hr]
    exact next?_rest_of_search hr hfound
  · intro hy
    refine Option.isSome_iff_ne_none.2 fun hn => hy (ENat.eq_top_iff_forall_ge.2 fun n => ?_)
    rw [coe_le_yield_iff]
    exact length_take_of_search_eq_none hn n

end Generator

/-- An action that pulls all the values that there are. -/
def Action.Drains : Action → Prop
  | .collect | .count | .last | .max => True
  | _ => False

namespace Workbench

variable {b : Workbench} {ts : List Track} {t : Track} {i : ℕ} {g : Generator} {a : Action}

/-- An action that drains has an answer exactly where there is an end. -/
theorem isSome_act_iff (ha : a.Drains) : (b.act i g a).isSome ↔ g.yield ≠ ⊤ := by
  rw [← Generator.drain_isSome_iff, Generator.drain]
  cases a with
  | collect | count | last | max => rw [act, searched, Option.isSome_map]
  | _ => cases ha

/-- Whatever a program has done before, the yield of its generators is infinite in the
    sequence of zeros only. -/
theorem Reached.yield_eq_top_iff (h : Reached b ts) (ht : ts[i]? = some t)
    (hg : b.generators[i]? = some g) : g.yield = ⊤ ↔ t.seed = ⟨0, 0⟩ :=
  (h.tracked.getElem? ht hg).isAt.yield_eq_top_iff

/-- There are as many generators as tracks. -/
theorem Reached.exists_getElem? (h : Reached b ts) (ht : ts[i]? = some t) :
    ∃ g, b.generators[i]? = some g := by
  obtain ⟨hi, -⟩ := List.getElem?_eq_some_iff.1 ht
  exact ⟨_, List.getElem?_eq_getElem (List.Forall₂.length_eq h.tracked ▸ hi)⟩

end Workbench

/-! ## The end of a sequence -/

/-- The sequence of zeros goes on for ever. Any other gives 93 values at most, of which there are
    so many for the seed `(1, 0)` only; and a smaller seed gives no fewer values, none of which
    is larger. So an action that drains comes to an end at every place of every sequence but that
    of zeros, and a run makes 94 calls at most unless it is for zeros. -/
theorem ends_unless_zeros {σ : Type} [Sink σ] (s s' : Seed) (cfg : Settings) (w : σ) :
    (∀ n : ℕ, (n : ℕ∞) < s.yield ↔ ((Generator.ofSeed s).afterCalls n).call.1.isOk) ∧
      (s = ⟨0, 0⟩ → s.yield = ⊤ ∧ ∀ n, ((Generator.ofSeed s).afterCalls n).call.1 = .ok 0) ∧
      (s ≠ ⟨0, 0⟩ → s.yield ≤ 93 ∧ (s.yield = 93 ↔ s = ⟨1, 0⟩)) ∧
      (s.previous ≤ s'.previous → s.current ≤ s'.current → s'.yield ≤ s.yield ∧
        ∀ n : ℕ, (n : ℕ∞) < s'.yield → ∃ v v',
          ((Generator.ofSeed s).afterCalls n).call.1 = .ok v ∧
          ((Generator.ofSeed s').afterCalls n).call.1 = .ok v' ∧ v ≤ v') ∧
      (∀ b ts i t, Workbench.Reached b ts → ts[i]? = some t → ∃ g, b.generators[i]? = some g ∧
        ((∃ n, (g.take n).2.next? = none) ↔ t.seed ≠ ⟨0, 0⟩) ∧
        ∀ a : Action, a.Drains → ((b.perform (.act i a)).isSome ↔ t.seed ≠ ⟨0, 0⟩)) ∧
      (runAsking cfg w).1 = run cfg w ∧
      (cfg.seed ≠ ⟨0, 0⟩ → (runAsking cfg w).2.length ≤ 94) := by
  refine ⟨Seed.coe_lt_yield_iff, ?_, fun hs => ⟨Seed.yield_le hs, Seed.yield_eq_iff hs⟩, ?_, ?_,
    runAsking_fst cfg w, length_runAsking_le cfg w⟩
  · rintro rfl
    refine ⟨Seed.yield_zeros, fun n => ?_⟩
    obtain ⟨v, hv, hterm⟩ := Seed.exists_call_eq_ok (Seed.yield_zeros ▸ ENat.natCast_lt_top n)
    rw [Seed.term_zeros] at hterm
    obtain rfl : v = 0 := UInt64.toNat_inj.1 hterm
    exact hv
  · intro hp hc
    refine ⟨Seed.yield_anti hp hc, fun n hn => ?_⟩
    obtain ⟨v', hv', hterm'⟩ := Seed.exists_call_eq_ok hn
    obtain ⟨v, hv, hterm⟩ := Seed.exists_call_eq_ok (hn.trans_le (Seed.yield_anti hp hc))
    refine ⟨v, v', hv, hv', UInt64.le_iff_toNat_le.2 ?_⟩
    rw [hterm, hterm']
    exact Seed.term_mono hp hc n
  · intro b ts i t h ht
    obtain ⟨g, hg⟩ := h.exists_getElem? ht
    have hfinite : g.yield ≠ ⊤ ↔ t.seed ≠ ⟨0, 0⟩ := not_congr (h.yield_eq_top_iff ht hg)
    refine ⟨g, hg, ?_, fun a ha => ?_⟩
    · rw [← Generator.yield_ne_top_iff, hfinite]
    · rw [Workbench.perform_act hg, Option.isSome_map, Workbench.isSome_act_iff ha, hfinite]

end OpeningTerms
