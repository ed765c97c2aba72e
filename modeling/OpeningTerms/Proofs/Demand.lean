import OpeningTerms.Proofs.Pulling
import OpeningTerms.Sequence.Workbench

/-!
# What a step demands

A step on a workbench pulls values from the generator that it acts on, and from one more if
it makes pairs. How many it asks for, as far as they exist, is its *demand*; the values that
it gets are *pulled*. The demand on all other generators is nothing, so these stay as they
are (`demand_eq_zero`).

* `act_spec`: an action moves every generator on by the demand on it; the values in its answer
  have been pulled by it, in that order;
* `perform_spec`: so does a step, which also may add a generator at the end.
-/

namespace OpeningTerms

/-- The values in an answer that come from the generator that it is about. -/
def Answer.returned : Answer → List UInt64
  | .stepped (.ok v) => [v]
  | .values vs => vs
  | .value v => v.toList
  | .pairs ps _ => ps.map (·.1)
  | _ => []

/-- The values in an answer that come from another generator. -/
def Answer.returnedByOther : Answer → List UInt64
  | .pairs ps _ => ps.map (·.2)
  | _ => []

/-- The places of the generators that a step acts on. -/
def WorkStep.touched : WorkStep → List ℕ
  | .act target (.zip other _) => [target, other]
  | .act target _ => [target]
  | _ => []

namespace Workbench

variable (b : Workbench)

/-- How many values an action asks of the generator `g` that it is about. -/
def ownDemand (g : Generator) : Action → ℕ
  | .nextValue | .next => 1
  | .look | .describe | .sizeHint | .compare _ => 0
  | .take n => n
  | .collect | .count | .last | .max => g.searchLength fun _ => false
  | .nth n => n + 1
  | .skipTake _ 0 | .stepBy _ 0 => 0
  | .skipTake skip (n + 1) => skip + 1 + n
  | .stepBy stride (n + 1) => n * stride + 1
  | .takeWhile p => g.searchLength fun v => !p v
  | .find p | .findIdx p => g.searchLength p
  | .zip other n => b.generators[other]?.elim 0 fun h =>
      min (g.take n).1.length ((h.take n).1.length + 1)

/-- How many values an action on the generator `g` asks of the one at another place. -/
def otherDemand (g : Generator) (j : ℕ) : Action → ℕ
  | .zip other n => if j = other then b.generators[other]?.elim 0 fun h =>
      min (g.take n).1.length (h.take n).1.length else 0
  | _ => 0

/-- How many values a step asks of the generator at the place `j`. -/
def demand (j : ℕ) : WorkStep → ℕ
  | .act target a => b.generators[target]?.elim 0 fun g =>
      if j = target then b.ownDemand g a else b.otherDemand g j a
  | _ => 0

/-- The values that a step gets from the generator at the place `j`. -/
def pulled (st : WorkStep) (j : ℕ) : List UInt64 :=
  b.generators[j]?.elim [] fun g => (g.take (b.demand j st)).1

/-- The generator that a step makes, if it makes one. -/
def made : WorkStep → List Generator
  | .create s => [.ofSeed s]
  | .clone source => b.generators[source]?.toList
  | .act .. => []

variable {b} {b' : Workbench} {i : ℕ} {g : Generator} {ans : Answer}

/-- To perform an action is to find its generator and to act. -/
theorem perform_act (hi : b.generators[i]? = some g) (a : Action) :
    b.perform (.act i a) = (b.act i g a).map fun r => (r.1, i, r.2) := by
  rw [perform, hi, Option.bind_eq_bind, Option.bind_some]
  cases b.act i g a with
  | none => rfl
  | some r => rfl

/-- A step demands nothing of the generators that it does not act on. -/
theorem demand_eq_zero {st : WorkStep} {j : ℕ} (hj : j ∉ st.touched) : b.demand j st = 0 := by
  rcases st with _ | _ | ⟨target, a⟩
  · rfl
  · rfl
  · have hne : j ≠ target := by
      rintro rfl
      cases a <;> exact hj List.mem_cons_self
    have hzero : ∀ g, b.otherDemand g j a = 0 := by
      intro g
      cases a with
      | zip other n => exact if_neg (by rintro rfl; simp [WorkStep.touched] at hj)
      | _ => rfl
    cases hg : b.generators[target]? <;> simp [demand, hg, hne, hzero]

/-- A search that ends has moved its generator on by what it demands. -/
theorem searched_spec {p : UInt64 → Bool} (answer : Generator.Search → Answer)
    (hret : ∀ r, (answer r).returned.Sublist r.pulled)
    (h : b.searched i g p answer = some (ans, b')) :
    b' = b.put i (g.take (g.searchLength p)).2 ∧
      ans.returned.Sublist (g.take (g.searchLength p)).1 := by
  obtain ⟨r, hr, heq⟩ := Option.map_eq_some_iff.1 h
  cases heq
  rw [Generator.search_spec hr]
  exact ⟨rfl, hret r⟩

/-- The largest of some words is one of them. -/
theorem mem_of_max?_eq_some {vs : List UInt64} {v : UInt64} (h : vs.max? = some v) : v ∈ vs := by
  have : Std.MaxEqOr UInt64 := ⟨fun a b => by
    change (if a ≤ b then b else a) = a ∨ (if a ≤ b then b else a) = b
    split
    · exact .inr rfl
    · exact .inl rfl⟩
  exact List.max?_mem h

/-- What a drained generator answers with: one of its values. -/
theorem toList_sublist_pulled {r : Generator.Search} {v : Option UInt64}
    (h : ∀ w ∈ v, w ∈ r.passed) : v.toList.Sublist r.pulled := by
  cases v with
  | none => exact List.nil_sublist _
  | some w => exact List.singleton_sublist.2 (List.mem_append_left _ (h w rfl))

/-- Only a stride of one or more has an answer. -/
theorem act_stepBy {stride n : ℕ} (h : b.act i g (.stepBy stride n) = some (ans, b')) :
    1 ≤ stride ∧ ans = .values (g.stepBy stride n).1 ∧ b' = b.put i (g.stepBy stride n).2 := by
  rw [act] at h
  by_cases hs : stride = 0
  · simp [hs] at h
  · simp only [guard, ne_eq, hs, not_false_eq_true, if_true, Option.pure_def, Option.bind_eq_bind,
      Option.bind_some, Option.some.injEq, Prod.mk.injEq] at h
    exact ⟨Nat.one_le_iff_ne_zero.2 hs, h.1.symm, h.2.symm⟩

/-- An action that makes no pairs moves its own generator on by its demand. What it returns
    has been pulled. -/
theorem act_of_ne_zip (hi : b.generators[i]? = some g) {a : Action} (hz : ∀ j n, a ≠ .zip j n)
    (h : b.act i g a = some (ans, b')) :
    b' = b.put i (g.take (b.ownDemand g a)).2 ∧
      ans.returned.Sublist (g.take (b.ownDemand g a)).1 := by
  -- To look at a generator is to put it back.
  have hlook : b' = b → ans.returned = [] → b' = b.put i (g.take 0).2 ∧
      ans.returned.Sublist (g.take 0).1 := by
    rintro rfl hnil
    rw [hnil]
    exact ⟨(put_self hi).symm, List.nil_sublist _⟩
  cases a with
  | nextValue =>
    cases hg : g.next with
    | ok r =>
      have hg' : g.next? = some r := by rw [Generator.next?, hg]; rfl
      simp only [act, hg, Option.some.injEq, Prod.mk.injEq] at h
      obtain ⟨rfl, rfl⟩ := h
      simp [ownDemand, Answer.returned, Generator.take_succ_of_some hg']
    | error o =>
      have hg' : g.next? = none := by rw [Generator.next?, hg]; rfl
      simp only [act, hg, Option.some.injEq, Prod.mk.injEq] at h
      obtain ⟨rfl, rfl⟩ := h
      simp [ownDemand, Answer.returned, Generator.take_of_none hg', put_self hi]
  | next =>
    cases hg : g.next? with
    | some r =>
      simp only [act, hg, Option.some.injEq, Prod.mk.injEq] at h
      obtain ⟨rfl, rfl⟩ := h
      simp [ownDemand, Answer.returned, Generator.take_succ_of_some hg]
    | none =>
      simp only [act, hg, Option.some.injEq, Prod.mk.injEq] at h
      obtain ⟨rfl, rfl⟩ := h
      simp [ownDemand, Answer.returned, Generator.take_of_none hg, put_self hi]
  | look =>
    cases h
    exact hlook rfl rfl
  | describe =>
    cases h
    exact hlook rfl rfl
  | sizeHint =>
    cases h
    exact hlook rfl rfl
  | compare other =>
    obtain ⟨_, -, heq⟩ := Option.map_eq_some_iff.1 h
    cases heq
    exact hlook rfl rfl
  | take n =>
    cases h
    exact ⟨rfl, List.Sublist.refl _⟩
  | nth n =>
    cases h
    rw [Generator.nth_eq]
    refine ⟨rfl, ?_⟩
    cases hv : (g.take (n + 1)).1[n]? with
    | none => exact List.nil_sublist _
    | some v => exact List.singleton_sublist.2 (List.mem_of_getElem? hv)
  | skipTake skip n =>
    have h' : some (Answer.values (g.skipTake skip n).1, b.put i (g.skipTake skip n).2) =
        some (ans, b') := h
    cases h'
    cases n with
    | zero => exact hlook (put_self hi) rfl
    | succ n =>
      rw [Generator.skipTake_spec]
      exact ⟨rfl, List.drop_sublist _ _⟩
  | stepBy stride n =>
    obtain ⟨hs, rfl, rfl⟩ := act_stepBy h
    cases n with
    | zero => exact hlook (put_self hi) rfl
    | succ n =>
      obtain ⟨h₁, h₂⟩ := Generator.stepBy_spec hs g n
      exact ⟨by rw [h₁]; rfl, h₂⟩
  | collect => exact searched_spec _ (fun r => List.sublist_append_left _ _) h
  | count =>
    exact searched_spec (fun r => .number r.passed.length)
      (fun r => List.nil_sublist _) h
  | last =>
    exact searched_spec (fun r => .value r.passed.getLast?)
      (fun r => toList_sublist_pulled fun w => List.mem_of_getLast?) h
  | max =>
    exact searched_spec (fun r => .value r.passed.max?)
      (fun r => toList_sublist_pulled fun w => mem_of_max?_eq_some) h
  | takeWhile p => exact searched_spec _ (fun r => List.sublist_append_left _ _) h
  | find p => exact searched_spec _ (fun r => List.sublist_append_right _ _) h
  | findIdx p =>
    exact searched_spec (fun r => .place (r.found.map fun _ => r.passed.length))
      (fun r => List.nil_sublist _) h
  | zip j n => exact absurd rfl (hz j n)

/-- To move one generator on is to move all on, the others by nothing. -/
theorem put_take_generators (hi : b.generators[i]? = some g) (d : ℕ) :
    (b.put i (g.take d).2).generators =
      b.generators.mapIdx fun j h => (h.take (if j = i then d else 0)).2 := by
  refine List.ext_getElem? fun j => ?_
  rw [put, List.getElem?_set, List.getElem?_mapIdx]
  by_cases hj : j = i
  · obtain ⟨hlt, rfl⟩ := List.getElem?_eq_some_iff.1 hi
    simp [hj, hlt]
  · simp [hj, Ne.symm hj]

/-- To make pairs takes another generator, which pulls as well. -/
theorem act_zip {j n : ℕ} (h : b.act i g (.zip j n) = some (ans, b')) :
    ∃ x, b.generators[j]? = some x ∧ j ≠ i ∧ ans = .pairs (g.zip n x).1 (g.zip n x).2.2 ∧
      b' = (b.put i (g.zip n x).2.1).put j (g.zip n x).2.2 := by
  rw [act] at h
  cases hx : b.generators[j]? with
  | none => simp [hx] at h
  | some x =>
    by_cases hji : j = i
    · simp [hji] at h
    · simp only [hx, Option.bind_eq_bind, Option.bind_some, guard, ne_eq, hji, not_false_eq_true,
        if_true, Option.pure_def, Option.some.injEq, Prod.mk.injEq] at h
      exact ⟨x, rfl, hji, h.1.symm, h.2.symm⟩

/-- An action that makes pairs moves both generators on by the demand on them, and no other.
    Both sides of the pairs have been pulled. -/
theorem act_zip_spec (hi : b.generators[i]? = some g) {j n : ℕ}
    (h : b.act i g (.zip j n) = some (ans, b')) :
    b'.generators = b.generators.mapIdx (fun m x => (x.take (b.demand m (.act i (.zip j n)))).2) ∧
      ans.returned.Sublist (b.pulled (.act i (.zip j n)) i) ∧
      ans.returnedByOther.Sublist (b.pulled (.act i (.zip j n)) j) := by
  obtain ⟨x, hx, hji, rfl, rfl⟩ := act_zip h
  obtain ⟨h₁, h₂⟩ := Generator.zip_sublist g x n
  refine ⟨List.ext_getElem? fun m => ?_, ?_, ?_⟩
  · obtain ⟨hi', rfl⟩ := List.getElem?_eq_some_iff.1 hi
    obtain ⟨hj', rfl⟩ := List.getElem?_eq_some_iff.1 hx
    rw [Generator.zip_spec, put, put, List.getElem?_set, List.getElem?_set, List.getElem?_mapIdx]
    -- The generator at `m` is the one acted on, the other one, or a bystander.
    by_cases hmi : m = i
    · simp [hmi, hji, hi', demand, ownDemand, hx]
    · by_cases hmj : m = j
      · simp [hmj, hji, hj', demand, otherDemand, hi]
      · simp [hmi, hmj, Ne.symm hmi, Ne.symm hmj, demand, otherDemand, hi]
  · simpa [pulled, demand, hi, ownDemand, hx, Answer.returned] using h₁
  · simpa [pulled, demand, hi, hji, otherDemand, hx, Answer.returnedByOther] using h₂

/-- An action moves every generator on by the demand on it, and returns what it has pulled. -/
theorem act_spec (hi : b.generators[i]? = some g) {a : Action}
    (h : b.act i g a = some (ans, b')) :
    b'.generators = b.generators.mapIdx (fun j x => (x.take (b.demand j (.act i a))).2) ∧
      ans.returned.Sublist (b.pulled (.act i a) i) ∧
      ∀ j n, a = .zip j n → ans.returnedByOther.Sublist (b.pulled (.act i a) j) := by
  by_cases hz : ∀ j n, a ≠ .zip j n
  · obtain ⟨rfl, hret⟩ := act_of_ne_zip hi hz h
    have hother : ∀ j, b.otherDemand g j a = 0 := by
      cases a with
      | zip j n => exact absurd rfl (hz j n)
      | _ => exact fun _ => rfl
    refine ⟨?_, ?_, fun j n hj => absurd hj (hz j n)⟩
    · simp [put_take_generators hi, demand, hi, hother]
    · simpa [pulled, demand, hi] using hret
  · push Not at hz
    obtain ⟨j, n, rfl⟩ := hz
    obtain ⟨h₁, h₂, h₃⟩ := act_zip_spec hi h
    refine ⟨h₁, h₂, ?_⟩
    rintro m k hm
    cases hm
    exact h₃

/-- To move all generators on by nothing changes none. -/
theorem mapIdx_take_eq_self {d : ℕ → ℕ} (hd : ∀ j, d j = 0) (gs : List Generator) :
    gs.mapIdx (fun j g => (g.take (d j)).2) = gs :=
  List.mapIdx_eq_iff.2 fun j => by simp [hd]

/-- A step moves every generator on by its demand, adds the one that it makes, and returns
    what it has pulled. -/
theorem perform_spec {st : WorkStep} (h : b.perform st = some (ans, i, b')) :
    b'.generators = (b.generators.mapIdx fun j g => (g.take (b.demand j st)).2) ++ b.made st ∧
      ans.returned.Sublist (b.pulled st i) ∧
      ∀ target other n, st = .act target (.zip other n) →
        ans.returnedByOther.Sublist (b.pulled st other) := by
  cases st with
  | create s =>
    cases h
    refine ⟨?_, List.nil_sublist _, nofun⟩
    rw [mapIdx_take_eq_self (d := fun j => b.demand j (.create s)) fun _ => rfl]
    rfl
  | clone source =>
    obtain ⟨g, hg, heq⟩ := Option.map_eq_some_iff.1 h
    cases heq
    refine ⟨?_, List.nil_sublist _, nofun⟩
    rw [mapIdx_take_eq_self (d := fun j => b.demand j (.clone source)) fun _ => rfl, made, hg]
    rfl
  | act target a =>
    obtain ⟨g, hg, h⟩ := Option.bind_eq_some_iff.1 h
    obtain ⟨⟨ans', b''⟩, hact, heq⟩ := Option.bind_eq_some_iff.1 h
    cases heq
    obtain ⟨h₁, h₂, h₃⟩ := act_spec hg hact
    refine ⟨by rw [h₁]; simp [made], h₂, ?_⟩
    rintro _ other n heq
    cases heq
    exact h₃ other n rfl

end Workbench

end OpeningTerms
