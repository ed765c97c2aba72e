import OpeningTerms.Proofs.Calls
import OpeningTerms.Proofs.Histories

/-!
# Exhaustion

A generator is *exhausted* where it has no next value. To pull from it changes nothing, so that it
is exhausted ever after: an action finds no value (`answerAtEnd`), whatever it pulls for, and the
workbench stays as it is. Nor does it help to act on other generators, as these do not put
anything back.

* `perform_act_of_none`: an action on an exhausted generator;
* `exhausted_stays`: what is true of all programs from there on.
-/

namespace OpeningTerms

/-! ## Pulling where there is nothing -/

namespace Generator

variable {g : Generator} {o : Overflow}

section

variable (hg : g.next? = none)

include hg

theorem next_of_none : g.next = .error ⟨g.produced⟩ :=
  next_eq_error_iff.2 ⟨next?_eq_none_iff.1 hg, rfl⟩

theorem search_of_none (p : UInt64 → Bool) : g.search p = some ⟨[], none, g⟩ := by
  fun_cases search p g with
  | case1 => rfl
  | case2 v g' hg' | case3 v g' hg' | case4 v g' hg' => cases hg.symm.trans hg'

theorem nth_of_none (n : ℕ) : g.nth n = (none, g) := by
  rw [nth_eq, take_of_none hg]
  rfl

theorem skipTake_of_none (skip n : ℕ) : g.skipTake skip n = ([], g) := by
  cases n with
  | zero => rfl
  | succ n => rw [skipTake, nth_of_none hg]

theorem stepBy_of_none (stride n : ℕ) : g.stepBy stride n = ([], g) := by
  cases n with
  | zero => rfl
  | succ n => rw [stepBy, hg]

theorem zip_of_none (n : ℕ) (h : Generator) : g.zip n h = ([], g, h) := by
  cases n with
  | zero => rfl
  | succ n => rw [zip, hg]

/-- There are no pairs either where the second side is exhausted, which stays as it is. -/
theorem zip_none (n : ℕ) (h : Generator) : (h.zip n g).1 = [] ∧ (h.zip n g).2.2 = g := by
  rw [zip_spec, take_of_none hg, take_of_none hg]
  exact ⟨List.zip_nil_right, rfl⟩

end

/-- A call fails exactly where there is no next value. -/
theorem call_eq_error_iff : g.call.1 = .error o ↔ g.next? = none ∧ o = ⟨g.produced⟩ := by
  constructor
  · intro h
    rcases hg : g.next with o' | ⟨v, g'⟩
    · rw [call_of_next_eq_error hg] at h
      obtain ⟨hend, rfl⟩ := next_eq_error_iff.1 hg
      exact ⟨next?_eq_none_iff.2 hend, by cases h; rfl⟩
    · rw [call_of_next_eq_ok hg] at h
      cases h
  · rintro ⟨hg, rfl⟩
    rw [call_of_next_eq_error (next_of_none hg)]

end Generator

/-! ## Programs -/

namespace Workbench

/-- The answers to the steps of a program, and the workbench afterwards. -/
def performAll (b : Workbench) : List WorkStep → Option (List Answer × Workbench)
  | [] => some ([], b)
  | st :: sts => do
    let (ans, _, b') ← b.perform st
    let (rest, b'') ← b'.performAll sts
    some (ans :: rest, b'')

/-- What an action on the generator `g` at the place `i` answers if `g` is exhausted. There is no
    answer only if the action names another generator that is missing, or strides by nothing. -/
def answerAtEnd (b : Workbench) (i : ℕ) (g : Generator) : Action → Option Answer
  | .nextValue => some (.stepped (.error ⟨g.produced⟩))
  | .next | .last | .max | .nth _ | .find _ => some (.value none)
  | .take _ | .collect | .skipTake .. | .takeWhile _ => some (.values [])
  | .stepBy stride _ => if stride = 0 then none else some (.values [])
  | .count => some (.number 0)
  | .findIdx _ => some (.place none)
  | .look => some .nothing
  | .describe => some (.text g.describe)
  | .sizeHint => some (.bounds 0 none)
  | .compare other => b.generators[other]?.map fun h => .truth (decide (g = h))
  | .zip other _ => if other = i then none else b.generators[other]?.map fun h => .pairs [] h

variable {b b' : Workbench} {i : ℕ} {g : Generator} {st : WorkStep} {ans : Answer}

/-- Behind the end, nothing is found, whatever is looked for. -/
theorem searched_of_none (hi : b.generators[i]? = some g) (hg : g.next? = none)
    (p : UInt64 → Bool) (answer : Generator.Search → Answer) :
    b.searched i g p answer = some (answer ⟨[], none, g⟩, b) := by
  rw [searched, Generator.search_of_none hg, Option.map_some, put_self hi]

/-- An action on an exhausted generator finds no value, and changes nothing. -/
theorem act_of_none (hi : b.generators[i]? = some g) (hg : g.next? = none) (a : Action) :
    b.act i g a = (b.answerAtEnd i g a).map (·, b) := by
  -- To put back what was there is to change nothing.
  have hput (ans : Answer) : some (ans, b.put i g) = some (ans, b) := by rw [put_self hi]
  cases a with
  | nextValue =>
    rw [act, Generator.next_of_none hg]
    rfl
  | next =>
    rw [act, hg]
    rfl
  | look | describe | sizeHint => rfl
  | compare other =>
    rw [act, answerAtEnd, Option.map_map]
    rfl
  | take n =>
    rw [act, Generator.take_of_none hg]
    exact hput _
  | nth n =>
    rw [act, Generator.nth_of_none hg]
    exact hput _
  | skipTake skip n =>
    rw [act, Generator.skipTake_of_none hg]
    exact hput _
  | stepBy stride n =>
    rw [act, answerAtEnd, Generator.stepBy_of_none hg]
    by_cases hs : stride = 0
    · simp [hs]
    · simp [hs, put_self hi]
  | collect | count | last | max | takeWhile _ | find _ | findIdx _ =>
    exact searched_of_none hi hg _ _
  | zip other n =>
    rw [act, answerAtEnd]
    -- The other generator may be missing, or be the same one, which gives no pairs.
    rcases hx : b.generators[other]? with _ | x
    · simp
    · by_cases h : other = i
      · simp [h]
      · simp [h, Generator.zip_of_none hg, put_self hi, put_self hx]

/-- At its end, a generator answers every action as the end does, and stays as it is. -/
theorem perform_act_of_none (hi : b.generators[i]? = some g) (hg : g.next? = none) (a : Action) :
    b.perform (.act i a) = (b.answerAtEnd i g a).map (·, i, b) := by
  rw [perform_act hi, act_of_none hi hg, Option.map_map]
  rfl

/-- Whatever a step acts on, an exhausted generator stays as it is. -/
theorem getElem?_of_perform (hi : b.generators[i]? = some g) (hg : g.next? = none)
    {j : ℕ} (hs : b.perform st = some (ans, j, b')) : b'.generators[i]? = some g := by
  rw [perform_getElem? hs hi, Generator.take_of_none hg]

/-- Another generator finds nothing to make pairs with. -/
theorem perform_zip_none (hi : b.generators[i]? = some g) (hg : g.next? = none) {j k n : ℕ}
    (hs : b.perform (.act j (.zip i n)) = some (ans, k, b')) : ans = .pairs [] g := by
  obtain ⟨h, -, hs⟩ := Option.bind_eq_some_iff.1 hs
  obtain ⟨⟨ans', b''⟩, hact, heq⟩ := Option.bind_eq_some_iff.1 hs
  cases heq
  obtain ⟨x, hx, -, rfl, -⟩ := act_zip hact
  -- The second side is the exhausted generator, and nothing is taken from it.
  obtain rfl : g = x := Option.some.inj (hi.symm.trans hx)
  rw [(Generator.zip_none hg n h).1, (Generator.zip_none hg n h).2]

/-- The answer to a step tells that there is no value in the exhausted generator `g` at the place
    `i`: if it is acted on, and if pairs are to be made with it. -/
structure TellsEnd (i : ℕ) (g : Generator) (st : WorkStep) (ans : Answer) : Prop where
  of_act : ∀ a, st = .act i a → ∃ b : Workbench, b.generators[i]? = some g ∧
    b.answerAtEnd i g a = some ans
  of_zip : ∀ j n, st = .act j (.zip i n) → ans = .pairs [] g

/-- Whatever is done with an exhausted generator tells that it is exhausted. -/
theorem tellsEnd_of_perform (hi : b.generators[i]? = some g) (hg : g.next? = none) {j : ℕ}
    (hs : b.perform st = some (ans, j, b')) : TellsEnd i g st ans where
  of_act := by
    rintro a rfl
    rw [perform_act_of_none hi hg] at hs
    obtain ⟨ans', hans, heq⟩ := Option.map_eq_some_iff.1 hs
    cases heq
    exact ⟨b, hi, hans⟩
  of_zip := by
    rintro k n rfl
    exact perform_zip_none hi hg hs

/-- A program leaves an exhausted generator as it is, and is told so each time. -/
theorem performAll_of_none (hg : g.next? = none) {sts : List WorkStep} {anss : List Answer}
    (hi : b.generators[i]? = some g) (hs : b.performAll sts = some (anss, b')) :
    b'.generators[i]? = some g ∧ List.Forall₂ (TellsEnd i g) sts anss := by
  induction sts generalizing b anss with
  | nil =>
    cases hs
    exact ⟨hi, .nil⟩
  | cons st sts ih =>
    obtain ⟨⟨ans, j, c⟩, hst, hs⟩ := Option.bind_eq_some_iff.1 hs
    obtain ⟨⟨rest, c'⟩, hsts, heq⟩ := Option.bind_eq_some_iff.1 hs
    cases heq
    -- After the first step, the generator is as it was, so the rest is a program of the same kind.
    obtain ⟨h₁, h₂⟩ := ih (getElem?_of_perform hi hg hst) hsts
    exact ⟨h₁, .cons (tellsEnd_of_perform hi hg hst) h₂⟩

/-- A program that only acts on an exhausted generator changes nothing. It has all its answers
    unless it names a generator that is missing or strides by nothing. -/
theorem performAll_act_of_none (hi : b.generators[i]? = some g) (hg : g.next? = none)
    (as : List Action) :
    b.performAll (as.map (.act i)) = (as.mapM (b.answerAtEnd i g)).map (·, b) := by
  induction as with
  | nil => rfl
  | cons a as ih =>
    rw [List.map_cons, performAll, perform_act_of_none hi hg, List.mapM_cons]
    cases b.answerAtEnd i g a with
    | none => rfl
    | some ans =>
      simp only [Option.map_some, Option.bind_eq_bind, Option.bind_some, ih]
      cases as.mapM (b.answerAtEnd i g) with
      | none => rfl
      | some anss => rfl

/-- If a call on a generator fails, there is no next value either, and conversely. From there on,
    whatever a program does, the generator keeps its state, count included. Each further call on it
    fails with the same error, and no action on it finds a value. -/
theorem exhausted_stays (hi : b.generators[i]? = some g) :
    ((∃ k, g.call.1 = .error ⟨k⟩) ↔ g.next? = none) ∧
      ∀ k, g.call.1 = .error ⟨k⟩ → g.produced = k ∧ g.call.2 = g ∧
        (∀ as : List Action,
          b.performAll (as.map (.act i)) = (as.mapM (b.answerAtEnd i g)).map (·, b)) ∧
        ∀ sts anss b', b.performAll sts = some (anss, b') →
          b'.generators[i]? = some g ∧ List.Forall₂ (TellsEnd i g) sts anss := by
  refine ⟨?_, fun k hk => ?_⟩
  · simp only [Generator.call_eq_error_iff]
    exact ⟨fun ⟨_, hg, _⟩ => hg, fun hg => ⟨_, hg, rfl⟩⟩
  · obtain ⟨hg, heq⟩ := Generator.call_eq_error_iff.1 hk
    cases heq
    refine ⟨rfl, ?_, performAll_act_of_none hi hg, fun sts anss b' => performAll_of_none hg hi⟩
    rw [Generator.call_of_next_eq_error (Generator.next_of_none hg)]

/-- From a descending seed near the end of the words there are two values. Then there are none,
    however they are pulled, nor pairs with those of another generator. -/
theorem exhausted_stays_descending :
    let g : Generator := ⟨0xa000000000000000, 0xc000000000000000, 2⟩
    let b : Workbench := ⟨[⟨3, 4, 2⟩, g]⟩
    let as : List Action := [.nextValue, .collect, .zip 0 3, .count, .next, .nextValue]
    (Generator.ofSeed ⟨0x8000000000000000, 0x2000000000000000⟩).afterCalls 2 = g ∧
      b.generators[1]? = some g ∧ g.call.1 = .error ⟨2⟩ ∧
      b.performAll (as.map (.act 1)) = some ([.stepped (.error ⟨2⟩), .values [],
        .pairs [] ⟨3, 4, 2⟩, .number 0, .value none, .stepped (.error ⟨2⟩)], b) := by
  intro g b as
  have hi : b.generators[1]? = some g := rfl
  have hk : g.call.1 = .error ⟨2⟩ := by decide
  obtain ⟨-, -, has, -⟩ := (exhausted_stays hi).2 2 hk
  exact ⟨by decide, hi, hk, (has as).trans rfl⟩

end Workbench

end OpeningTerms
