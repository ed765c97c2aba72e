import Mathlib.Data.List.TakeWhile
import OpeningTerms.Proofs.ToCome

/-!
# Ascent

The two values that a generator holds may stand in any order at the start of a sequence, but in no
other place: what is moved up there is a sum, which is no smaller than the value that moves down. So
the values to come ascend, not strictly, from the second one on (`pairwise_tail_toCome`), and from
the first one on where the two values do (`pairwise_toCome`).

The last of the values to come is then the largest one, unless it comes right after a larger first
one (`max?_eq_getLast?`), and nothing after it.

* `Workbench.values_ascend`: what programs may observe of this.
-/

namespace OpeningTerms

namespace Generator

variable {g g' : Generator} {v : UInt64} {vs : List UInt64}

/-- The value that a step gives comes before the second one of the pair. -/
theorem previous_of_next? (hg : g.next? = some (v, g')) :
    v = g.previous ∧ g'.previous = g.current := by
  obtain ⟨hv, hprevious, -⟩ := next_eq_ok_iff.1 (next?_eq_some_iff.1 hg)
  exact ⟨hv, hprevious⟩

/-- A step leads to a pair that ascends, with a sum in which both values are contained. -/
theorem le_current_of_next? (hg : g.next? = some (v, g')) :
    g.previous ≤ g'.current ∧ g'.previous ≤ g'.current := by
  obtain ⟨-, hprevious, hsum, -⟩ := next_eq_ok_iff.1 (next?_eq_some_iff.1 hg)
  rw [UInt64.le_iff_toNat_le, UInt64.le_iff_toNat_le, hprevious, hsum]
  exact ⟨Nat.le_add_right _ _, Nat.le_add_left _ _⟩

/-! ## The order of the values to come -/

theorem eq_previous_of_mem_head_toCome : ∀ w ∈ g.toCome.head, w = g.previous := by
  rcases hg : g.next? with _ | ⟨v, g'⟩
  · simp [toCome_of_none hg]
  · rw [toCome_of_some hg, Stream'.Seq.head_cons]
    rintro w ⟨⟩
    exact (previous_of_next? hg).1

/-- From a pair that ascends, the values ascend. -/
theorem pairwise_toCome (h : g.previous ≤ g.current) : g.toCome.Pairwise (· ≤ ·) := by
  -- What is left of the sequence always comes from such a pair.
  refine Stream'.Seq.Pairwise.coind_trans (fun vs => ∃ g, g.previous ≤ g.current ∧ g.toCome = vs)
    ⟨g, h, rfl⟩ ?_
  rintro v vs ⟨g, hle, hvs⟩
  obtain ⟨g', hg, rfl⟩ := exists_of_toCome_eq_cons hvs
  obtain ⟨rfl, hprevious⟩ := previous_of_next? hg
  refine ⟨fun w hw => ?_, g', (le_current_of_next? hg).2, rfl⟩
  rw [eq_previous_of_mem_head_toCome w hw, hprevious]
  exact hle

/-- From the second one on, the values ascend. -/
theorem pairwise_tail_toCome (g : Generator) : g.toCome.tail.Pairwise (· ≤ ·) := by
  rcases hg : g.next? with _ | ⟨v, g'⟩
  · rw [toCome_of_none hg, Stream'.Seq.tail_nil]
    exact Stream'.Seq.Pairwise.nil
  · rw [toCome_of_some hg, Stream'.Seq.tail_cons]
    exact pairwise_toCome (le_current_of_next? hg).2

/-- After the start of a sequence, a generator holds a pair that ascends. -/
theorem IsAt.previous_le_current {s : Seed} {k : ℕ} (h : g.IsAt s k) (hk : k ≠ 0) :
    g.previous ≤ g.current := by
  rw [UInt64.le_iff_toNat_le, h.previous_eq, h.current_eq]
  exact s.term_le_term (Nat.one_le_iff_ne_zero.2 hk) k.le_succ

/-! ## The last value and the largest -/

theorem pairwise_of_ofList {R : UInt64 → UInt64 → Prop}
    (h : (Stream'.Seq.ofList vs).Pairwise R) : vs.Pairwise R := by
  rw [List.pairwise_iff_getElem]
  intro i j hi hj hij
  refine h i j hij _ ?_ _ ?_
  · rw [Stream'.Seq.ofList_get?]
    exact List.getElem?_eq_getElem hi
  · rw [Stream'.Seq.ofList_get?]
    exact List.getElem?_eq_getElem hj

/-- The larger of two words is one of them, and the least word that neither of them exceeds. -/
instance : Std.LawfulOrderMax UInt64 where
  max_eq_or a b := by
    change (if a ≤ b then b else a) = a ∨ (if a ≤ b then b else a) = b
    split
    · exact .inr rfl
    · exact .inl rfl
  max_le_iff a b c := by
    change (if a ≤ b then b else a) ≤ c ↔ _
    simp only [UInt64.le_iff_toNat_le]
    split <;> omega

/-- A finite sequence of values begins with those of the pair. Its third value is their sum. -/
theorem toCome_eq_ofList_cons_cons {w : UInt64} (h : g.toCome = .ofList (v :: w :: vs)) :
    v = g.previous ∧ w = g.current ∧ ∀ u ∈ vs.head?, v ≤ u := by
  rw [Stream'.Seq.ofList_cons] at h
  obtain ⟨g', hg, h'⟩ := exists_of_toCome_eq_cons h
  rw [Stream'.Seq.ofList_cons] at h'
  obtain ⟨g'', hg', h''⟩ := exists_of_toCome_eq_cons h'
  obtain ⟨rfl, hprevious⟩ := previous_of_next? hg
  obtain ⟨rfl, hcurrent⟩ := previous_of_next? hg'
  refine ⟨rfl, hprevious, fun u hu => ?_⟩
  have hhead : g''.toCome.head = vs.head? := by
    change g''.toCome.get? 0 = _
    rw [h'', Stream'.Seq.ofList_get?, List.head?_eq_getElem?]
  rw [eq_previous_of_mem_head_toCome u (hhead ▸ hu), hcurrent]
  exact (le_current_of_next? hg).1

/-- The last value is the largest, unless there are only two, and they do not ascend. -/
theorem max?_eq_getLast? (h : g.toCome = .ofList vs)
    (hvs : vs.length = 2 → g.previous ≤ g.current) : vs.max? = vs.getLast? := by
  rcases vs with _ | ⟨v, _ | ⟨w, us⟩⟩
  · rfl
  · rfl
  · have htail := pairwise_tail_toCome g
    rw [h, Stream'.Seq.ofList_cons, Stream'.Seq.tail_cons] at htail
    obtain ⟨hv, hw, hsum⟩ := toCome_eq_ofList_cons_cons h
    have hlast : ∀ u ∈ w :: us, u ≤ (w :: us).getLast (List.cons_ne_nil w us) :=
      fun u hu => (pairwise_of_ofList htail).rel_getLast hu
    -- The first value is contained in the third one, if there is one.
    have hfirst : v ≤ (w :: us).getLast (List.cons_ne_nil w us) := by
      rcases us with _ | ⟨u, us⟩
      · rw [hv, List.getLast_singleton, hw]
        exact hvs rfl
      · exact Std.le_trans (hsum u rfl) (hlast u (List.mem_cons_of_mem _ List.mem_cons_self))
    rw [List.getLast?_cons_cons, List.getLast?_eq_getLast_of_ne_nil (List.cons_ne_nil w us),
      List.max?_eq_some_iff]
    exact ⟨List.mem_cons_of_mem _ (List.getLast_mem _), List.forall_mem_cons.2 ⟨hfirst, hlast⟩⟩

/-- Two values that do not ascend. -/
theorem max?_of_lt (h : g.toCome = .ofList vs) (hvs : vs.length = 2)
    (hlt : g.current < g.previous) :
    vs.max? = some g.previous ∧ vs.getLast? = some g.current := by
  obtain ⟨v, w, rfl⟩ := List.length_eq_two.1 hvs
  obtain ⟨rfl, rfl, -⟩ := toCome_eq_ofList_cons_cons h
  refine ⟨List.max?_eq_some_iff.2 ⟨List.mem_cons_self, ?_⟩, rfl⟩
  rw [List.forall_mem_cons, List.forall_mem_singleton]
  exact ⟨Std.le_refl _, Std.le_of_lt hlt⟩

/-- The last value and the largest one differ exactly for two values that do not ascend. -/
theorem getLast?_ne_max?_iff (h : g.toCome = .ofList vs) :
    vs.getLast? ≠ vs.max? ↔ vs.length = 2 ∧ g.current < g.previous := by
  constructor
  · intro hne
    by_contra hnot
    refine hne (max?_eq_getLast? h fun hvs => ?_).symm
    exact UInt64.not_lt.1 fun hlt => hnot ⟨hvs, hlt⟩
  · rintro ⟨hvs, hlt⟩
    rw [(max?_of_lt h hvs hlt).1, (max?_of_lt h hvs hlt).2, ne_eq, Option.some.injEq]
    exact UInt64.ne_of_lt hlt

/-- To drain a finite sequence is to pass all its values. -/
theorem exists_drain (h : g.toCome = .ofList vs) :
    ∃ r, (g.search fun _ => false) = some r ∧ r.passed = vs := by
  obtain ⟨r, hr, hpassed, -⟩ := exists_search h fun _ => false
  exact ⟨r, hr, hpassed.trans (List.takeWhile_eq_self_iff.2 fun _ _ => rfl)⟩

end Generator

/-! ## Programs -/

namespace Workbench

open Generator

variable {b : Workbench} {ts : List Track} {t : Track} {i : ℕ} {g : Generator}

/-- Whatever a program has done: a generator from which a value has been pulled holds a pair that
    ascends, and the values to come from any generator ascend from the second one on. To drain one
    that is not of zeros for its last value, and for its largest, gives the same answer but for two
    values that do not ascend, which are the pair. -/
theorem values_ascend (h : Reached b ts) (ht : ts[i]? = some t) (hi : b.generators[i]? = some g) :
    (t.values ≠ [] → g.previous ≤ g.current) ∧
      g.toCome.tail.Pairwise (· ≤ ·) ∧
      (t.seed ≠ ⟨0, 0⟩ → ∃ l m b', b.perform (.act i .last) = some (.value l, i, b') ∧
        b.perform (.act i .max) = some (.value m, i, b') ∧
        (l ≠ m ↔ g.toCome.length' = 2 ∧ g.current < g.previous) ∧
        (l ≠ m → l = some g.current ∧ m = some g.previous)) := by
  have hat := (h.tracked.getElem? ht hi).isAt
  refine ⟨fun hvalues => ?_, pairwise_tail_toCome g, fun hs => ?_⟩
  · exact hat.previous_le_current (mt List.eq_nil_of_length_eq_zero hvalues)
  · have hend : g.toCome.Terminates := by
      rwa [terminates_toCome_iff_yield, ne_eq, hat.yield_eq_top_iff]
    obtain ⟨vs, hvs⟩ := exists_toCome_eq_ofList (terminates_toCome_iff.1 hend)
    obtain ⟨r, hr, hpassed⟩ := exists_drain hvs
    have hdiffer := getLast?_ne_max?_iff hvs
    refine ⟨vs.getLast?, vs.max?, b.put i r.rest, ?_, ?_, ?_, fun hne => ?_⟩
    · rw [perform_act hi, act, searched, hr, ← hpassed]
      rfl
    · rw [perform_act hi, act, searched, hr, ← hpassed]
      rfl
    · rw [hdiffer, hvs, length'_ofList]
      exact_mod_cast Iff.rfl
    · obtain ⟨htwo, hlt⟩ := hdiffer.1 hne
      exact (max?_of_lt hvs htwo hlt).symm

/-- From a descending seed there are two values before the sums leave the words. -/
theorem values_ascend_two :
    let s : Seed := ⟨0x8000000000000000, 0x2000000000000000⟩
    let b : Workbench := ⟨[.ofSeed s]⟩
    Reached b [⟨s, []⟩] ∧ s ≠ ⟨0, 0⟩ ∧
      ∃ b', b.perform (.act 0 .last) = some (.value (some 0x2000000000000000), 0, b') ∧
        b.perform (.act 0 .max) = some (.value (some 0x8000000000000000), 0, b') := by
  intro s b
  have hreached : Reached b [⟨s, []⟩] := by
    have hcreate : Workbench.perform {} (.create s) = some (.made 0, 0, b) := rfl
    exact .step .start hcreate
  have hs : s ≠ ⟨0, 0⟩ := by decide
  have htwo : (ofSeed s).toCome.length' = 2 := by
    have hfirst : (ofSeed s).next? =
        some (0x8000000000000000, ⟨0x2000000000000000, 0xa000000000000000, 1⟩) := by decide
    have hsecond : Generator.next? ⟨0x2000000000000000, 0xa000000000000000, 1⟩ =
        some (0x2000000000000000, ⟨0xa000000000000000, 0xc000000000000000, 2⟩) := by decide
    rw [toCome_of_some hfirst, toCome_of_some hsecond, toCome_of_none (by decide)]
    simp [one_add_one_eq_two]
  obtain ⟨-, -, hdrain⟩ := values_ascend hreached (i := 0) rfl rfl
  obtain ⟨l, m, b', hlast, hmax, hiff, hvalues⟩ := hdrain hs
  obtain ⟨rfl, rfl⟩ := hvalues (hiff.2 ⟨htwo, by decide⟩)
  exact ⟨hreached, hs, b', hlast, hmax⟩

end Workbench

end OpeningTerms
