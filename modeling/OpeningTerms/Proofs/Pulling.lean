import OpeningTerms.Proofs.Recurrence
import OpeningTerms.Sequence.Pull

/-!
# What is pulled

To take a number of values one after the other, as far as they exist, is the plainest way to
pull. Every other way comes to the same as to take some number of values and to keep some of
them: so its generator afterwards is known from that number, and its values are among those
taken, in the same order.

* `nth_eq`, `skipTake_spec`, `stepBy_spec`, `zip_spec`: how many values the bounded ways
  take, and what they keep;
* `search_spec`: a search takes those it has passed and the one that it has found;
* `IsAt.take`, `IsAt.map_take`: the values that are taken are the terms from the place of
  the generator on;
* `IsAt.length_take_eq_iff`: all of `n` values exist exactly when the term one place after
  the last of them is a word.
-/

namespace OpeningTerms.Generator

variable {g g' h : Generator} {v : UInt64} {s : Seed} {k : ℕ}

/-! ## Taking -/

@[simp] theorem take_zero (g : Generator) : g.take 0 = ([], g) := rfl

theorem take_of_none (hg : g.next? = none) (n : ℕ) : g.take n = ([], g) := by
  cases n with
  | zero => rfl
  | succ n => rw [take, hg]

/-- To pull one value and then `n` is to pull one more than `n`. -/
theorem take_succ_of_some (hg : g.next? = some (v, g')) (n : ℕ) :
    g.take (n + 1) = (v :: (g'.take n).1, (g'.take n).2) := by
  rw [take, hg]

/-- No more values are taken than asked for. -/
theorem length_take_le (g : Generator) (n : ℕ) : (g.take n).1.length ≤ n := by
  induction n generalizing g with
  | zero => exact le_rfl
  | succ n ih =>
    cases hg : g.next? with
    | none => simp [take_of_none hg]
    | some r => simpa [take_succ_of_some hg] using ih r.2

/-- Fewer values are taken than asked for only where there are no more. -/
theorem next?_take_eq_none {n : ℕ} (hn : (g.take n).1.length < n) :
    (g.take n).2.next? = none := by
  induction n generalizing g with
  | zero => cases hn
  | succ n ih =>
    cases hg : g.next? with
    | none => rwa [take_of_none hg]
    | some r =>
      rw [take_succ_of_some hg] at hn ⊢
      exact ih (Nat.lt_of_succ_lt_succ hn)

/-- Values can be taken in two goes. -/
theorem take_add (g : Generator) (m n : ℕ) :
    g.take (m + n) =
      ((g.take m).1 ++ ((g.take m).2.take n).1, ((g.take m).2.take n).2) := by
  induction m generalizing g with
  | zero => simp
  | succ m ih =>
    cases hg : g.next? with
    | none => simp [take_of_none hg]
    | some r => simp [Nat.add_right_comm m 1 n, take_succ_of_some hg, ih]

/-- To ask for the values that there are is to take the same. -/
theorem take_length_take (g : Generator) (n : ℕ) : g.take (g.take n).1.length = g.take n := by
  induction n generalizing g with
  | zero => rfl
  | succ n ih =>
    cases hg : g.next? with
    | none => simp [take_of_none hg]
    | some r => simp [take_succ_of_some hg, ih]

/-- Where not all values exist that are asked for, those that do are all there are. -/
theorem length_take_eq_min {m : ℕ} (hm : (g.take m).1.length < m)
    (n : ℕ) : (g.take n).1.length = min n (g.take m).1.length := by
  induction m generalizing g n with
  | zero => cases hm
  | succ m ih =>
    rcases hg : g.next? with _ | ⟨v, g'⟩
    · simp [take_of_none hg]
    · rw [take_succ_of_some hg] at hm ⊢
      cases n with
      | zero => simp
      | succ n =>
        rw [take_succ_of_some hg, List.length_cons, List.length_cons,
          ih (Nat.lt_of_succ_lt_succ hm), Nat.succ_min_succ]

/-! ## Bounded ways to pull -/

/-- The value after the next `n` is the last of `n + 1`. -/
theorem nth_eq (g : Generator) (n : ℕ) :
    g.nth n = ((g.take (n + 1)).1[n]?, (g.take (n + 1)).2) := by
  induction n generalizing g with
  | zero =>
    cases hg : g.next? with
    | none => simp [nth, hg, take_of_none hg]
    | some r => simp [nth, hg, take_succ_of_some hg]
  | succ n ih =>
    cases hg : g.next? with
    | none => simp [nth, hg, take_of_none hg]
    | some r => simp [nth, hg, take_succ_of_some hg, ih]

/-- Where the value after the next `n` is missing, there are no more values. -/
theorem take_of_getElem?_eq_none {n : ℕ} (hn : (g.take (n + 1)).1[n]? = none) (m : ℕ) :
    (g.take (n + 1)).2.take m = ([], (g.take (n + 1)).2) :=
  take_of_none (next?_take_eq_none (Nat.lt_succ_of_le (List.getElem?_eq_none_iff.1 hn))) m

/-- What is skipped is pulled like what is taken. -/
theorem skipTake_spec (g : Generator) (skip n : ℕ) :
    g.skipTake skip (n + 1) =
      ((g.take (skip + 1 + n)).1.drop skip, (g.take (skip + 1 + n)).2) := by
  rw [skipTake, nth_eq, take_add g (skip + 1) n]
  have hle := length_take_le g (skip + 1)
  cases hv : (g.take (skip + 1)).1[skip]? with
  | none =>
    -- There are not even the values to skip, and no more to be asked for.
    simp [take_of_getElem?_eq_none hv, List.getElem?_eq_none_iff.1 hv]
  | some v =>
    obtain ⟨hlt, rfl⟩ := List.getElem?_eq_some_iff.1 hv
    simp [List.drop_append_of_le_length hlt.le, List.drop_eq_getElem_cons hlt,
      List.drop_of_length_le hle]

section

variable {stride : ℕ} (hs : 1 ≤ stride)

include hs

/-- To go on by strides is to take as many values as they cover. -/
theorem everyNth_spec (g : Generator) (n : ℕ) :
    (g.everyNth stride n).2 = (g.take (n * stride)).2 ∧
      (g.everyNth stride n).1.Sublist (g.take (n * stride)).1 := by
  obtain ⟨k, rfl⟩ := Nat.exists_eq_add_of_le' hs
  induction n generalizing g with
  | zero => simp [everyNth]
  | succ n ih =>
    rw [Nat.succ_mul, Nat.add_comm _ (k + 1), take_add, everyNth, Nat.add_sub_cancel, nth_eq]
    cases hv : (g.take (k + 1)).1[k]? with
    | none => simp [take_of_getElem?_eq_none hv]
    | some v =>
      obtain ⟨ih₁, ih₂⟩ := ih (g.take (k + 1)).2
      exact ⟨ih₁, (List.singleton_sublist.2 (List.mem_of_getElem? hv)).append ih₂⟩

/-- The values between the steps are pulled like those at the steps. -/
theorem stepBy_spec (g : Generator) (n : ℕ) :
    (g.stepBy stride (n + 1)).2 = (g.take (n * stride + 1)).2 ∧
      (g.stepBy stride (n + 1)).1.Sublist (g.take (n * stride + 1)).1 := by
  rw [stepBy]
  cases hg : g.next? with
  | none => simp [take_of_none hg]
  | some r =>
    obtain ⟨h₁, h₂⟩ := everyNth_spec hs r.2 n
    rw [take_succ_of_some hg]
    exact ⟨h₁, h₂.cons_cons _⟩

end

/-- Pairs are made as far as both sides have values. The first side is asked first, so it
    may lose one value more than there are pairs. -/
theorem zip_spec (g h : Generator) (n : ℕ) :
    g.zip n h = ((g.take n).1.zip (h.take n).1,
      (g.take (min (g.take n).1.length ((h.take n).1.length + 1))).2,
      (h.take (min (g.take n).1.length (h.take n).1.length)).2) := by
  induction n generalizing g h with
  | zero => simp [zip]
  | succ n ih =>
    cases hg : g.next? with
    | none => simp [zip, hg, take_of_none hg]
    | some r =>
      cases hh : h.next? with
      | none =>
        -- The value of the first side is lost here.
        simp [zip, hg, hh, take_of_none hh, take_succ_of_some hg]
      | some q => simp [zip, hg, hh, take_succ_of_some hg, take_succ_of_some hh, ih]

/-- Both sides of the pairs have been pulled. -/
theorem zip_sublist (g h : Generator) (n : ℕ) :
    ((g.zip n h).1.map (·.1)).Sublist
        (g.take (min (g.take n).1.length ((h.take n).1.length + 1))).1 ∧
      ((g.zip n h).1.map (·.2)).Sublist
        (h.take (min (g.take n).1.length (h.take n).1.length)).1 := by
  induction n generalizing g h with
  | zero => simp [zip]
  | succ n ih =>
    cases hg : g.next? with
    | none => simp [zip, hg]
    | some r =>
      cases hh : h.next? with
      | none => simp [zip, hg, hh]
      | some q => simp [zip, hg, hh, take_succ_of_some hg, take_succ_of_some hh, ih]

/-! ## Searching -/

/-- All the values that a search has pulled. -/
def Search.pulled (r : Search) : List UInt64 := r.passed ++ r.found.toList

/-- How many values a search pulls, if it ends. -/
def searchLength (g : Generator) (p : UInt64 → Bool) : ℕ :=
  (g.search p).elim 0 fun r => r.pulled.length

/-- A search takes the values that it passes and the one that it finds. -/
theorem search_spec {p : UInt64 → Bool} {r : Search} (hr : g.search p = some r) :
    g.take (g.searchLength p) = (r.pulled, r.rest) := by
  rw [searchLength, hr]
  change g.take r.pulled.length = _
  fun_induction search p g generalizing r with
  | case1 g hg =>
    cases hr
    rfl
  | case2 g v g' hg hp =>
    cases hr
    simp [Search.pulled, take_succ_of_some hg]
  | case3 g v g' hg hp hz =>
    -- Among zeros the search would go on for ever, but it has come to `r`.
    cases hr
  | case4 g v g' hg hp hz ih =>
    obtain ⟨q, hq, rfl⟩ := Option.map_eq_some_iff.1 hr
    have hq' : g'.take q.pulled.length = (q.pulled, q.rest) := ih hq
    change g.take (q.pulled.length + 1) = (v :: q.pulled, q.rest)
    rw [take_succ_of_some hg, hq']

/-! ## The terms that are taken -/

namespace IsAt

/-- Values that are taken move the generator on by their number, and are terms. -/
theorem take_spec (hg : g.IsAt s k) (n : ℕ) :
    (g.take n).2.IsAt s (k + (g.take n).1.length) ∧
      (g.take n).1.map (·.toNat) = (List.range' k (g.take n).1.length).map s.term := by
  induction n generalizing g k with
  | zero => exact ⟨hg, rfl⟩
  | succ n ih =>
    cases hr : g.next? with
    | none =>
      rw [take_of_none hr]
      exact ⟨hg, rfl⟩
    | some r =>
      obtain ⟨hv, -, hg'⟩ := hg.of_next (next?_eq_some_iff.1 hr)
      obtain ⟨ih₁, ih₂⟩ := ih hg'
      rw [take_succ_of_some hr]
      refine ⟨?_, ?_⟩
      · rwa [List.length_cons, Nat.add_comm _ 1, ← Nat.add_assoc]
      · simp [ih₂, hv, List.range'_succ]

theorem take (hg : g.IsAt s k) (n : ℕ) : (g.take n).2.IsAt s (k + (g.take n).1.length) :=
  (hg.take_spec n).1

theorem map_take (hg : g.IsAt s k) (n : ℕ) :
    (g.take n).1.map (·.toNat) = (List.range' k (g.take n).1.length).map s.term :=
  (hg.take_spec n).2

/-- All of `n` values exist exactly when the term one place after the last is a word. -/
theorem length_take_eq_iff (hg : g.IsAt s k) (n : ℕ) :
    (g.take n).1.length = n ↔ s.term (k + n + 1) < 2 ^ 64 := by
  constructor
  · intro hn
    exact (hg.take n).term_lt (by omega)
  · intro hn
    refine (length_take_le g n).antisymm (not_lt.1 fun hlt => ?_)
    have hend := (hg.take n).next?_eq_none_iff.1 (next?_take_eq_none hlt)
    exact absurd (s.term_lt_of_le (by omega) hn) (not_lt.2 hend)

end IsAt

end OpeningTerms.Generator
