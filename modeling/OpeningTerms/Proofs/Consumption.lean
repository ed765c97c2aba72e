import OpeningTerms.Proofs.ToCome

/-!
# What is consumed

Each of the bounded ways to pull answers with values at certain places of the sequence of those to
come, and moves the generator on by a number of them that depends on the way: what is skipped counts
as well, a stride counts as a whole but for the last one, and of two generators that make pairs, the
first has been asked once more than the second if this one ends too early. The sequence may end
anywhere on the way.

* `Workbench.bounded_pulls`: the answers of the four actions, and what they consume.
-/

namespace OpeningTerms

namespace Generator

variable (g h : Generator) (skip stride n : ℕ)

/-! ## One value, and values after others -/

theorem nth_fst : (g.nth n).1 = g.toCome.get? n := by
  rw [nth_eq, getElem?_take, if_pos n.lt_succ_self]

theorem movesOn_nth : g.MovesOn (min ((n : ℕ∞) + 1) g.toCome.length') (g.nth n).2 := by
  rw [nth_eq]
  exact_mod_cast movesOn_take g (n + 1)

theorem skipTake_fst : (g.skipTake skip n).1 = (g.toCome.drop skip).take n := by
  cases n with
  | zero => rfl
  | succ n =>
    have hn : skip + 1 + n - skip = n + 1 := by omega
    rw [skipTake_spec, ← take_toCome, Stream'.Seq.take_drop, hn]

theorem movesOn_zero : g.MovesOn 0 g := ⟨0, rfl, rfl, rfl⟩

/-- The values that are skipped are pulled as well, unless no value is asked for. -/
theorem movesOn_skipTake :
    g.MovesOn (if n = 0 then 0 else min ((skip : ℕ∞) + n) g.toCome.length')
      (g.skipTake skip n).2 := by
  cases n with
  | zero => exact movesOn_zero g
  | succ n =>
    rw [skipTake_spec, if_neg n.succ_ne_zero]
    have h := movesOn_take g (skip + (n + 1))
    rw [Nat.cast_add] at h
    rwa [Nat.add_assoc, Nat.add_comm 1 n]

/-! ## Strides -/

variable {stride}

/-- A stride ends with the value that it gives. -/
theorem getElem?_everyNth (hs : 1 ≤ stride) (j : ℕ) :
    (g.everyNth stride n).1[j]? =
      if j < n then g.toCome.get? (j * stride + (stride - 1)) else none := by
  induction n generalizing g j with
  | zero => rfl
  | succ n ih =>
    rw [everyNth, nth_eq, Nat.sub_add_cancel hs]
    rcases hv : (g.take stride).1[stride - 1]? with _ | v
    · -- The sequence ends within the first stride, so it does in all later ones.
      rw [getElem?_take, if_pos (by omega)] at hv
      rw [g.toCome.le_stable (Nat.le_add_left _ _) hv, ite_self]
      rfl
    · rw [getElem?_take, if_pos (by omega)] at hv
      rcases j with _ | j
      · rw [List.getElem?_cons_zero, if_pos n.succ_pos, Nat.zero_mul, Nat.zero_add, hv]
      · rw [List.getElem?_cons_succ, ih, toCome_take, Stream'.Seq.drop_get?, Nat.succ_mul,
          ← Nat.add_assoc, Nat.add_comm stride]
        simp only [Nat.succ_lt_succ_iff]

theorem getElem?_stepBy (hs : 1 ≤ stride) (j : ℕ) :
    (g.stepBy stride n).1[j]? = if j < n then g.toCome.get? (j * stride) else none := by
  cases n with
  | zero => rfl
  | succ n =>
    rw [stepBy]
    rcases hg : g.next? with _ | ⟨v, g'⟩
    · simp [toCome_of_none hg]
    · rw [toCome_of_some hg]
      rcases j with _ | j
      · simp
      · -- The first value stands before the first stride.
        have hplace : (j + 1) * stride = j * stride + (stride - 1) + 1 := by
          rw [Nat.succ_mul]
          omega
        rw [List.getElem?_cons_succ, getElem?_everyNth g' n hs, hplace,
          Stream'.Seq.get?_cons_succ]
        simp only [Nat.succ_lt_succ_iff]

/-- All strides are consumed as a whole but the last, of which only the first value is. -/
theorem movesOn_stepBy (hs : 1 ≤ stride) :
    g.MovesOn (if n = 0 then 0 else min (1 + (n - 1 : ℕ) * stride) g.toCome.length')
      (g.stepBy stride n).2 := by
  cases n with
  | zero => exact movesOn_zero g
  | succ n =>
    rw [(stepBy_spec hs g n).1, if_neg n.succ_ne_zero, Nat.add_sub_cancel, add_comm]
    exact_mod_cast movesOn_take g (n * stride + 1)

/-! ## Pairs -/

theorem zip_fst : (g.zip n h).1 = (g.toCome.zip h.toCome).take n := by
  rw [zip_spec]
  refine List.ext_getElem? fun i => ?_
  rw [Stream'.Seq.getElem?_take, Stream'.Seq.get?_zip, List.zip_eq_zipWith, List.getElem?_zipWith,
    getElem?_take, getElem?_take]
  by_cases hi : i < n
  · simp only [if_pos hi]
    rcases g.toCome.get? i with _ | v
    · rfl
    · rcases h.toCome.get? i with _ | w
      · rfl
      · rfl
  · simp only [if_neg hi]

/-- The second side is pulled for pairs only. -/
theorem movesOn_zip_snd :
    h.MovesOn (min (n : ℕ∞) (min g.toCome.length' h.toCome.length')) (g.zip n h).2.2 := by
  rw [zip_spec]
  have hmoves := movesOn_take h (min (g.take n).1.length (h.take n).1.length)
  rwa [Nat.mono_cast.map_min, natCast_length_take, natCast_length_take, min_min_min_comm, min_self,
    min_assoc, min_assoc, min_self] at hmoves

/-- The first side is pulled for pairs, and once more where only the second side has come to its
    end. -/
theorem movesOn_zip_fst :
    g.MovesOn (min (n : ℕ∞) (min g.toCome.length' h.toCome.length') +
        if h.toCome.length' < min (n : ℕ∞) g.toCome.length' then 1 else 0) (g.zip n h).2.1 := by
  rw [zip_spec]
  have hmoves := movesOn_take g (min (g.take n).1.length ((h.take n).1.length + 1))
  rw [Nat.mono_cast.map_min, Nat.cast_succ, natCast_length_take, natCast_length_take] at hmoves
  generalize g.toCome.length' = l at hmoves ⊢
  generalize h.toCome.length' = l' at hmoves ⊢
  split_ifs with hlt
  · obtain ⟨hn, hl⟩ := lt_min_iff.1 hlt
    have hle : l' + 1 ≤ min (n : ℕ∞) l := Order.add_one_le_of_lt hlt
    rw [min_eq_right hl.le, min_eq_right hn.le]
    rwa [min_eq_right hn.le, min_eq_right hle, min_eq_left (hle.trans (min_le_right _ _))] at hmoves
  · have hle : min (n : ℕ∞) l ≤ l' := not_lt.1 hlt
    have hle' : min (n : ℕ∞) l ≤ min (n : ℕ∞) l' + 1 :=
      (le_min (min_le_left _ _) hle).trans le_self_add
    rw [add_zero, ← min_assoc, min_eq_left hle]
    rwa [min_eq_left hle', min_eq_left (min_le_right _ _)] at hmoves

end Generator

/-! ## Actions -/

namespace Workbench

open Generator

variable {b : Workbench} {i : ℕ} {g : Generator}

/-- Each of the bounded actions on a generator, with what it answers and what it consumes, for all
    its numbers. The values come from the sequence of those to come, as far as it goes; and this
    ends, unless it is one of zeros. -/
theorem bounded_pulls (hi : b.generators[i]? = some g) (n skip stride : ℕ) (hs : 1 ≤ stride) :
    let R := g.toCome
    (∀ ts t, Reached b ts → ts[i]? = some t → (R.Terminates ↔ t.seed ≠ ⟨0, 0⟩)) ∧
      (∃ g', b.perform (.act i (.nth n)) = some (.value (R.get? n), i, b.put i g') ∧
        g.MovesOn (min (n + 1) R.length') g') ∧
      (∃ g', b.perform (.act i (.skipTake skip n)) =
          some (.values ((R.drop skip).take n), i, b.put i g') ∧
        g.MovesOn (if n = 0 then 0 else min (skip + n) R.length') g') ∧
      (∃ vs g', b.perform (.act i (.stepBy stride n)) = some (.values vs, i, b.put i g') ∧
        (∀ j, vs[j]? = if j < n then R.get? (j * stride) else none) ∧
        g.MovesOn (if n = 0 then 0 else min (1 + (n - 1 : ℕ) * stride) R.length') g') ∧
      ∀ j h, b.generators[j]? = some h → j ≠ i →
        let R' := h.toCome
        ∃ g' h', b.perform (.act i (.zip j n)) =
            some (.pairs ((R.zip R').take n) h', i, (b.put i g').put j h') ∧
          h.MovesOn (min (n : ℕ∞) (min R.length' R'.length')) h' ∧
          g.MovesOn (min (n : ℕ∞) (min R.length' R'.length') +
            if R'.length' < min (n : ℕ∞) R.length' then 1 else 0) g' := by
  intro R
  refine ⟨fun ts t hreached ht => ?_, ⟨_, ?_, movesOn_nth g n⟩, ⟨_, ?_, movesOn_skipTake g skip n⟩,
    ⟨_, _, ?_, getElem?_stepBy g n hs, movesOn_stepBy g n hs⟩, fun j h hj hne => ?_⟩
  · rw [terminates_toCome_iff_yield, ne_eq, hreached.yield_eq_top_iff ht hi]
  · rw [perform_act hi, ← nth_fst]
    rfl
  · rw [perform_act hi, ← skipTake_fst]
    rfl
  · rw [perform_act hi, act]
    simp [Nat.one_le_iff_ne_zero.1 hs]
  · refine ⟨_, _, ?_, movesOn_zip_snd g h n, movesOn_zip_fst g h n⟩
    rw [perform_act hi, act, hj, ← zip_fst]
    simp [hne]

/-- The second generator has one value left, so there is one pair, and the first generator loses a
    value. -/
theorem bounded_pulls_uneven :
    let g : Generator := ⟨2, 1, 0⟩
    let h : Generator := ⟨0x7fffffffffffffff, 0x8000000000000000, 0⟩
    let b : Workbench := ⟨[g, h]⟩
    b.generators[0]? = some g ∧ 1 ≤ 2 ∧ b.generators[1]? = some h ∧ 1 ≠ 0 ∧
      ∃ g' h', b.perform (.act 0 (.zip 1 3)) =
          some (.pairs [(2, 0x7fffffffffffffff)] h', 0, (b.put 0 g').put 1 h') ∧
        h.MovesOn 1 h' ∧ g.MovesOn 2 g' := by
  intro g h b
  have hg : g.toCome = .cons 2 (.cons 1 (toCome ⟨3, 4, 2⟩)) := by
    rw [toCome_of_some (g := g) rfl, toCome_of_some rfl]
    rfl
  have hh : h.toCome = .cons 0x7fffffffffffffff .nil := by
    have hnext : h.next? =
        some (0x7fffffffffffffff, ⟨0x8000000000000000, 0xffffffffffffffff, 1⟩) := by decide
    rw [toCome_of_some hnext, toCome_of_none (by decide)]
  obtain ⟨-, -, -, -, hzip⟩ := bounded_pulls (b := b) (i := 0) (g := g) rfl 3 0 2 (by decide)
  have hlength : (1 : ℕ∞) < g.toCome.length' := by
    rw [hg]
    exact_mod_cast Stream'.Seq.lt_length'_iff.2 ⟨1, rfl⟩
  have hone : h.toCome.length' = 1 := by simp [hh]
  have hlt : (1 : ℕ∞) < (3 : ℕ) := by decide
  obtain ⟨g', h', hperform, hh', hg'⟩ := hzip 1 h rfl (by decide)
  refine ⟨rfl, by decide, rfl, by decide, g', h', ?_, ?_, ?_⟩
  · rw [hperform, hg, hh]
    simp
  · rw [hone, min_eq_right hlength.le] at hh'
    exact hh'
  · rw [hone, min_eq_right hlength.le, if_pos (lt_min hlt hlength)] at hg'
    exact hg'

end Workbench

end OpeningTerms
