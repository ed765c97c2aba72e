import OpeningTerms.Proofs.Output

/-!
# Lines

The output of a run can be read again. Its *complete lines* (`completeLines`) are those that have a
line end. As there is none in a number, these are the numbers that have been written, whatever has
been begun after them (`completeLines_lines_append`). A number is known from its digits, so the
numbers are known from the output (`lines_injective`).

The first two of them are the seed. The others follow from these, and do not tell anything more.

* `output_eq_iff`: when two runs have the same output.
-/

namespace OpeningTerms

/-! ## Reading lines -/

/-- The complete lines of a text: those that have a line end, which is left out. -/
def completeLines (s : String) : List String := (s.toList.splitOn '\n').dropLast.map .ofList

theorem newline_not_mem_repr (n : ℕ) : '\n' ∉ n.repr.toList := by
  intro h
  rw [Nat.toList_repr] at h
  exact absurd (Nat.isDigit_of_mem_toDigits (by decide) (by decide) h) (by decide)

section

variable {s : String} (hs : '\n' ∉ s.toList)

include hs

theorem completeLines_eq_nil : completeLines s = [] := by
  rw [completeLines, List.splitOn_eq_singleton hs]
  rfl

theorem completeLines_cons (t : String) :
    completeLines (s ++ "\n" ++ t) = s :: completeLines t := by
  have hlist : (s ++ "\n" ++ t).toList = s.toList ++ '\n' :: t.toList := by simp
  rw [completeLines, hlist, List.splitOn_append_cons_self_of_not_mem hs,
    List.dropLast_cons_of_ne_nil (List.splitOn_ne_nil _ _), List.map_cons, String.ofList_toList,
    completeLines]

end

/-- The complete lines are the numbers that have been written, and not what has been begun. -/
theorem completeLines_lines_append (ns : List ℕ) {rest : String} (hrest : '\n' ∉ rest.toList) :
    completeLines (lines ns ++ rest) = ns.map Nat.repr := by
  induction ns with
  | nil =>
    rw [lines, List.map_nil, String.join_nil, String.empty_append]
    exact completeLines_eq_nil hrest
  | cons n ns ih =>
    rw [lines_cons, String.append_assoc, completeLines_cons (newline_not_mem_repr n), ih,
      List.map_cons]

theorem repr_injective : Function.Injective Nat.repr := by
  intro n m h
  rw [← Nat.ofDigitChars_ten_toDigits (n := n), ← Nat.ofDigitChars_ten_toDigits (n := m),
    ← Nat.toList_repr, ← Nat.toList_repr, h]

/-- Numbers are known from their lines. -/
theorem lines_injective : Function.Injective lines := by
  intro ns ms h
  have hempty : '\n' ∉ "".toList := by simp
  refine List.map_injective_iff.2 repr_injective ?_
  rw [← completeLines_lines_append ns hempty, h, completeLines_lines_append ms hempty]

/-! ## Reading terms -/

namespace Seed

variable (s s' : Seed) (t u : ℕ)

/-- The first terms of two sequences are the same if the halves of the seeds are, as far as these
    are among the terms. -/
theorem forall_term_eq_iff :
    (∀ i < t, s.term i = s'.term i) ↔
      (1 ≤ t → s.previous = s'.previous) ∧ (2 ≤ t → s.current = s'.current) := by
  constructor
  · intro h
    exact ⟨fun ht => UInt64.toNat_inj.1 (h 0 ht), fun ht => UInt64.toNat_inj.1 (h 1 ht)⟩
  · rintro ⟨hprevious, hcurrent⟩ i
    induction i using Nat.twoStepInduction with
    | zero => exact fun ht => congrArg UInt64.toNat (hprevious ht)
    | one => exact fun ht => congrArg UInt64.toNat (hcurrent ht)
    | more i ih₁ ih₂ =>
      intro ht
      rw [term_add_two, term_add_two, ih₁ (by omega), ih₂ (by omega)]

theorem map_term_range_eq_iff :
    (List.range t).map s.term = (List.range u).map s'.term ↔
      t = u ∧ (1 ≤ t → s.previous = s'.previous) ∧ (2 ≤ t → s.current = s'.current) := by
  rw [← forall_term_eq_iff]
  constructor
  · intro h
    obtain rfl : t = u := by simpa using congrArg List.length h
    exact ⟨rfl, fun i hi => List.map_inj_left.1 h i (List.mem_range.2 hi)⟩
  · rintro ⟨rfl, h⟩
    exact List.map_inj_left.2 fun i hi => h i (List.mem_range.1 hi)

end Seed

section

variable {σ : Type} [Sink σ] {Ready : σ → Prop} {text : σ → String} {flushes : σ → ℕ}
  (hσ : Sink.Reliable Ready text flushes) {cfg cfg' : Settings} {w w' : σ}

include hσ

/-- A run that succeeds has written all terms that were asked for. -/
theorem text_of_run_eq_none (hw : Ready w) (hr : (run cfg w).2 = none) :
    text (run cfg w).1.sink =
      text w ++ lines ((List.range cfg.terms.toNat).map cfg.seed.term) := by
  obtain ⟨hok, hfails⟩ := run_spec hσ cfg w hw
  rcases lt_or_ge (cfg.seed.term (cfg.terms.toNat + 1)) (2 ^ 64) with hlt | hge
  · exact (hok hlt).2.1
  · obtain ⟨N, -, -, ⟨e, o, he, -⟩, -⟩ := hfails hge
    rw [hr] at he
    cases he

/-- Two runs that succeed have the same output, byte for byte, exactly if they are for the same
    number of terms, and for seeds that agree in the first half if there is a term, and in the
    second half if there are two. So from two terms on, the output tells the number of terms and
    the seed. -/
theorem output_eq_iff (hw : Ready w) (hw' : Ready w') (htext : text w = text w')
    (hr : (run cfg w).2 = none) (hr' : (run cfg' w').2 = none) :
    let out := (text (run cfg w).1.sink).toUTF8
    let out' := (text (run cfg' w').1.sink).toUTF8
    (out = out' ↔ cfg.terms = cfg'.terms ∧
      (1 ≤ cfg.terms → cfg.seed.previous = cfg'.seed.previous) ∧
      (2 ≤ cfg.terms → cfg.seed.current = cfg'.seed.current)) ∧
    (2 ≤ cfg.terms → out = out' → cfg.terms = cfg'.terms ∧ cfg.seed = cfg'.seed) := by
  intro out out'
  have hiff : out = out' ↔ cfg.terms = cfg'.terms ∧
      (1 ≤ cfg.terms → cfg.seed.previous = cfg'.seed.previous) ∧
      (2 ≤ cfg.terms → cfg.seed.current = cfg'.seed.current) := by
    simp only [out, out', String.toUTF8_eq_toByteArray, String.toByteArray_inj]
    rw [text_of_run_eq_none hσ hw hr, text_of_run_eq_none hσ hw' hr', htext,
      String.append_right_inj, lines_injective.eq_iff, Seed.map_term_range_eq_iff,
      UInt64.toNat_inj, UInt64.le_iff_toNat_le, UInt64.le_iff_toNat_le]
    rfl
  refine ⟨hiff, fun hterms hout => ?_⟩
  obtain ⟨h₁, h₂, h₃⟩ := hiff.1 hout
  have hone : 1 ≤ cfg.terms := UInt64.le_trans (by decide) hterms
  exact ⟨h₁, Seed.ext (h₂ hone) (h₃ hterms)⟩

end

/-- One term does not tell the second half of the seed, be it small or so large that there is no
    other term. But one term is told from two, although the digits are the same. -/
theorem output_eq_iff_one_term :
    let settings (n : UInt64) (s : Seed) : Settings :=
      { sequence := some { terms := some n, seed := s } }
    let w : LimitedSink := {}
    let out (cfg : Settings) := (run cfg w).1.sink.text.toUTF8
    (w.limit = none ∧ w.failsToFlush = false) ∧
      ((run (settings 1 ⟨11, 0⟩) w).2 = none ∧
        (run (settings 1 ⟨11, 0xfffffffffffffff4⟩) w).2 = none ∧
        (run (settings 2 ⟨1, 1⟩) w).2 = none) ∧
      out (settings 1 ⟨11, 0⟩) = out (settings 1 ⟨11, 0xfffffffffffffff4⟩) ∧
      out (settings 1 ⟨11, 0⟩) ≠ out (settings 2 ⟨1, 1⟩) := by
  intro settings w out
  have hw : w.limit = none ∧ w.failsToFlush = false := ⟨rfl, rfl⟩
  have hr₁ := ((run_spec LimitedSink.reliable (settings 1 ⟨11, 0⟩) w hw).1 (by decide)).1
  have hr₂ :=
    ((run_spec LimitedSink.reliable (settings 1 ⟨11, 0xfffffffffffffff4⟩) w hw).1 (by decide)).1
  have hr₃ := ((run_spec LimitedSink.reliable (settings 2 ⟨1, 1⟩) w hw).1 (by decide)).1
  refine ⟨hw, ⟨hr₁, hr₂, hr₃⟩, ?_, fun hout => ?_⟩
  · exact (output_eq_iff LimitedSink.reliable hw hw rfl hr₁ hr₂).1.2
      ⟨by decide, fun _ => by decide, fun h => absurd h (by decide)⟩
  · have hterms := ((output_eq_iff LimitedSink.reliable hw hw rfl hr₁ hr₃).1.1 hout).1
    exact absurd hterms (by decide)

end OpeningTerms
