import OpeningTerms.Proofs.Demand

/-!
# Histories

A program makes generators and acts on them, in any order. Its *tracks* tell where each of
them comes from: the seed at the start of its sequence, and all the values pulled since, by
itself and, up to when it was made, by the one that it is a copy of. What programs bring
about is thus a workbench together with tracks (`Workbench.Reached`).

* `Reached.tracked`: whatever the program, every generator stands at the place of its sequence
  that counts the values on its track, and these are the terms before;
* `reached_step`: so it is after every step; and the step itself has pulled the terms between
  the two places, has returned no others, and has left all other generators alone.
-/

namespace OpeningTerms

/-- Where a generator comes from. -/
structure Track where
  /-- The seed of its sequence. -/
  seed : Seed
  /-- The values pulled so far, in order. -/
  values : List UInt64 := []

namespace Track

variable {t : Track} {g : Generator}

/-- `g` has come along the track. -/
structure Along (t : Track) (g : Generator) : Prop where
  isAt : g.IsAt t.seed t.values.length
  values_eq : t.values.map (·.toNat) = (List.range t.values.length).map t.seed.term

/-- The state of a generator that has come along the track, as numbers. -/
structure LeadsTo (t : Track) (g : Generator) : Prop where
  previous_eq : g.previous.toNat = t.seed.term t.values.length
  current_eq : g.current.toNat = t.seed.term (t.values.length + 1)
  produced_eq : g.produced.toNat = t.values.length
  fits : ∀ m ≤ t.values.length + 1, t.seed.term m < 2 ^ 64
  values_eq : t.values.map (·.toNat) = (List.range t.values.length).map t.seed.term

theorem along_ofSeed (s : Seed) : Along ⟨s, []⟩ (.ofSeed s) :=
  ⟨Generator.isAt_ofSeed s, rfl⟩

/-- The values that a generator still gives continue its track. -/
theorem Along.take (h : t.Along g) (n : ℕ) :
    Along ⟨t.seed, t.values ++ (g.take n).1⟩ (g.take n).2 := by
  refine ⟨?_, ?_⟩
  · rw [List.length_append]
    exact h.isAt.take n
  · -- The places up to the new one are those up to the old one and those that follow.
    have hsplit := List.range'_append_1 (s := 0) (m := t.values.length)
      (n := (g.take n).1.length)
    rw [Nat.zero_add] at hsplit
    rw [List.map_append, h.values_eq, h.isAt.map_take, List.length_append, List.range_eq_range',
      List.range_eq_range', ← hsplit, List.map_append]

/-- The count of a generator is exact as long as it does not wrap around, which it could only
    in the sequence of zeros. -/
theorem Along.leadsTo (h : t.Along g) (ht : t.seed = ⟨0, 0⟩ → t.values.length < 2 ^ 64) :
    t.LeadsTo g where
  previous_eq := h.isAt.previous_eq
  current_eq := h.isAt.current_eq
  produced_eq := by
    refine h.isAt.produced_toNat ?_
    by_cases hs : t.seed = ⟨0, 0⟩
    · exact ht hs
    · exact (h.isAt.lt_of_ne_zero hs).trans (by decide)
  fits _ hm := h.isAt.term_lt hm
  values_eq := h.values_eq

end Track

namespace Workbench

variable {b b' : Workbench} {ts : List Track} {st : WorkStep} {ans : Answer} {i : ℕ}

/-- The track of the generator that a step makes, if it makes one: a new one begins, and a
    copy takes over that of its source. -/
def madeTracks (ts : List Track) : WorkStep → List Track
  | .create s => [⟨s, []⟩]
  | .clone source => ts[source]?.toList
  | .act .. => []

/-- The tracks after a step, on which all is put down that it has pulled. -/
def record (b : Workbench) (ts : List Track) (st : WorkStep) : List Track :=
  (ts.mapIdx fun j t => ⟨t.seed, t.values ++ b.pulled st j⟩) ++ madeTracks ts st

/-- The workbenches that programs bring about, with the tracks of their generators. -/
inductive Reached : Workbench → List Track → Prop
  | start : Reached {} []
  | step {b b' : Workbench} {ts : List Track} {st : WorkStep} {ans : Answer} {i : ℕ} :
      Reached b ts → b.perform st = some (ans, i, b') → Reached b' (b.record ts st)

/-- The tracks belong to the generators one by one. -/
def Tracked (b : Workbench) (ts : List Track) : Prop := List.Forall₂ Track.Along ts b.generators

theorem pulled_eq {j : ℕ} {g : Generator} (hg : b.generators[j]? = some g) :
    b.pulled st j = (g.take (b.demand j st)).1 := by
  rw [pulled, hg]
  rfl

theorem record_getElem? {j : ℕ} {t : Track} (ht : ts[j]? = some t) :
    (b.record ts st)[j]? = some ⟨t.seed, t.values ++ b.pulled st j⟩ := by
  obtain ⟨hj, rfl⟩ := List.getElem?_eq_some_iff.1 ht
  rw [record, List.getElem?_append_left (by simpa using hj)]
  simp [hj]

theorem perform_getElem? (hs : b.perform st = some (ans, i, b')) {j : ℕ} {g : Generator}
    (hg : b.generators[j]? = some g) :
    b'.generators[j]? = some (g.take (b.demand j st)).2 := by
  obtain ⟨hj, rfl⟩ := List.getElem?_eq_some_iff.1 hg
  rw [(perform_spec hs).1, List.getElem?_append_left (by simpa using hj)]
  simp [hj]

theorem Tracked.getElem? (h : Tracked b ts) {j : ℕ} {t : Track} {g : Generator}
    (ht : ts[j]? = some t) (hg : b.generators[j]? = some g) : t.Along g := by
  obtain ⟨h₁, rfl⟩ := List.getElem?_eq_some_iff.1 ht
  obtain ⟨h₂, rfl⟩ := List.getElem?_eq_some_iff.1 hg
  exact List.Forall₂.get h h₁ h₂

/-- A generator that is made has a track of its own. -/
theorem Tracked.made (h : Tracked b ts) (hs : b.perform st = some (ans, i, b')) :
    List.Forall₂ Track.Along (madeTracks ts st) (b.made st) := by
  cases st with
  | create s => exact .cons (Track.along_ofSeed s) .nil
  | clone source =>
    -- The copy is at the place of its source, so it has come along the same track.
    obtain ⟨g, hg, -⟩ := Option.map_eq_some_iff.1 hs
    obtain ⟨hlt, -⟩ := List.getElem?_eq_some_iff.1 hg
    have hlt' : source < ts.length := List.Forall₂.length_eq h ▸ hlt
    have ht := List.getElem?_eq_getElem hlt'
    rw [madeTracks, Workbench.made, ht, hg]
    exact .cons (h.getElem? ht hg) .nil
  | act target a => exact .nil

/-- A step keeps all generators on their tracks. -/
theorem Tracked.perform (h : Tracked b ts) (hs : b.perform st = some (ans, i, b')) :
    Tracked b' (b.record ts st) := by
  rw [Tracked, (perform_spec hs).1, record]
  -- The old generators go on along their tracks, and the one that is made comes after them.
  refine List.rel_append ?_ (h.made hs)
  refine List.forall₂_of_length_eq_of_get (by simpa using List.Forall₂.length_eq h) ?_
  intro j h₁ h₂
  have hj : j < ts.length := by simpa using h₁
  have hj' : j < b.generators.length := by simpa using h₂
  have hg := List.getElem?_eq_getElem hj'
  simpa [pulled_eq hg] using (h.getElem? (List.getElem?_eq_getElem hj) hg).take (b.demand j st)

/-- Whatever a program does, its generators stay on their tracks. -/
theorem Reached.tracked (h : Reached b ts) : Tracked b ts := by
  induction h with
  | start => exact .nil
  | step _ hs ih => exact ih.perform hs

/-- After every step of every program, every generator is in the state that its track leads
    to: it holds the two terms at the place that counts the values on its track. What the
    step has pulled from a generator are the terms from the old place on, as they come one by
    one; all that it returns has been pulled; and it has changed no generator that it does
    not act on. -/
theorem reached_step (h : Reached b ts) (hs : b.perform st = some (ans, i, b'))
    (hsmall : ∀ t ∈ b.record ts st, t.seed = ⟨0, 0⟩ → t.values.length < 2 ^ 64) :
    List.Forall₂ Track.LeadsTo (b.record ts st) b'.generators ∧
      (∀ (j : ℕ) (t : Track) (g : Generator), ts[j]? = some t → b.generators[j]? = some g →
        ∃ g', b'.generators[j]? = some g' ∧
          (b.record ts st)[j]? = some ⟨t.seed, t.values ++ b.pulled st j⟩ ∧
          g.take (b.pulled st j).length = (b.pulled st j, g') ∧
          (b.pulled st j).map (·.toNat) =
            (List.range' t.values.length (b.pulled st j).length).map t.seed.term ∧
          (j ∉ st.touched → b.pulled st j = [] ∧ g' = g)) ∧
      ans.returned.Sublist (b.pulled st i) ∧
      ∀ target other n, st = .act target (.zip other n) →
        ans.returnedByOther.Sublist (b.pulled st other) := by
  have htr := h.tracked
  refine ⟨?_, ?_, (perform_spec hs).2⟩
  · have htr' := htr.perform hs
    refine List.forall₂_of_length_eq_of_get (List.Forall₂.length_eq htr') fun j h₁ h₂ => ?_
    exact (List.Forall₂.get htr' h₁ h₂).leadsTo (hsmall _ (List.get_mem _ _))
  · intro j t g ht hg
    refine ⟨_, perform_getElem? hs hg, record_getElem? ht, ?_, ?_, ?_⟩
    · rw [pulled_eq hg, Generator.take_length_take]
    · rw [pulled_eq hg]
      exact (htr.getElem? ht hg).isAt.map_take _
    · intro hj
      rw [pulled_eq hg, demand_eq_zero hj]
      exact ⟨rfl, rfl⟩

/-- A generator is moved on and copied, and then paired with one that is at its end: it loses
    the value 3, which is on its track but not on that of the copy. -/
theorem reached_step_lost_value :
    let high : UInt64 := 0x8000000000000000
    let b : Workbench := ⟨[⟨3, 4, 2⟩, ⟨3, 4, 2⟩, ⟨high, high, 0⟩]⟩
    let b' : Workbench := ⟨[⟨4, 7, 3⟩, ⟨3, 4, 2⟩, ⟨high, high, 0⟩]⟩
    let ts : List Track := [⟨⟨2, 1⟩, [2, 1]⟩, ⟨⟨2, 1⟩, [2, 1]⟩, ⟨⟨high, high⟩, []⟩]
    let ts' : List Track := [⟨⟨2, 1⟩, [2, 1, 3]⟩, ⟨⟨2, 1⟩, [2, 1]⟩, ⟨⟨high, high⟩, []⟩]
    let st : WorkStep := .act 0 (.zip 2 3)
    Reached b ts ∧ b.perform st = some (.pairs [] ⟨high, high, 0⟩, 0, b') ∧
      (∀ t ∈ b.record ts st, t.seed = ⟨0, 0⟩ → t.values.length < 2 ^ 64) ∧
      List.Forall₂ Track.LeadsTo ts' b'.generators := by
  intro high b b' ts ts' st
  have hs₁ : Workbench.perform ⟨[]⟩ (.create ⟨2, 1⟩) = some (.made 0, 0, ⟨[⟨2, 1, 0⟩]⟩) := rfl
  have hs₂ : Workbench.perform ⟨[⟨2, 1, 0⟩]⟩ (.act 0 (.nth 1)) =
      some (.value (some 1), 0, ⟨[⟨3, 4, 2⟩]⟩) := rfl
  have hs₃ : Workbench.perform ⟨[⟨3, 4, 2⟩]⟩ (.clone 0) =
      some (.made 1, 1, ⟨[⟨3, 4, 2⟩, ⟨3, 4, 2⟩]⟩) := rfl
  have hs₄ : Workbench.perform ⟨[⟨3, 4, 2⟩, ⟨3, 4, 2⟩]⟩ (.create ⟨high, high⟩) =
      some (.made 2, 2, b) := rfl
  have h₁ : Reached ⟨[⟨2, 1, 0⟩]⟩ [⟨⟨2, 1⟩, []⟩] := .step .start hs₁
  have h₂ : Reached ⟨[⟨3, 4, 2⟩]⟩ [⟨⟨2, 1⟩, [2, 1]⟩] := .step h₁ hs₂
  have h₃ : Reached ⟨[⟨3, 4, 2⟩, ⟨3, 4, 2⟩]⟩ [⟨⟨2, 1⟩, [2, 1]⟩, ⟨⟨2, 1⟩, [2, 1]⟩] := .step h₂ hs₃
  have h : Reached b ts := .step h₃ hs₄
  have hs : b.perform st = some (.pairs [] ⟨high, high, 0⟩, 0, b') := by cbv
  have hts : b.record ts st = ts' := by cbv
  have hsmall : ∀ t ∈ b.record ts st, t.seed = ⟨0, 0⟩ → t.values.length < 2 ^ 64 := by
    rw [hts]
    decide
  refine ⟨h, hs, hsmall, ?_⟩
  rw [← hts]
  exact (reached_step h hs hsmall).1

end Workbench

end OpeningTerms
