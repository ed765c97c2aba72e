import Mathlib.Data.List.TakeWhile
import Mathlib.Data.Nat.Notation
import OpeningTerms.Toml.Scalar

/-!
# Numbers in base ten

A natural number is written in base ten as `Nat.toDigits 10` has it: decimal digits only, at least
one, and none of them a needless zero in front. In a TOML document a word of this kind is no truth
value, has no mark of another base, no sign and no underscores; all that is left of the reading of
numbers is the value of its digits.

* `wordValue?_toDigits`: a number that is written in base ten is read as it was.
-/

namespace OpeningTerms.Text

variable {n : ℕ} {c : Char}

theorem isDecimal_iff : isDecimal c ↔ 48 ≤ c.toNat ∧ c.toNat ≤ 57 := by
  rw [isDecimal, Bool.and_eq_true, decide_eq_true_eq, decide_eq_true_eq, Char.le_def, Char.le_def,
    UInt32.le_iff_toNat_le, UInt32.le_iff_toNat_le]
  rfl

theorem isDecimal_of_mem_toDigits (h : c ∈ Nat.toDigits 10 n) : isDecimal c := by
  have hdigit := Nat.isDigit_of_mem_toDigits (by decide) (by decide) h
  rw [Char.isDigit, Bool.and_eq_true, decide_eq_true_eq, decide_eq_true_eq] at hdigit
  rw [isDecimal, Bool.and_eq_true, decide_eq_true_eq, decide_eq_true_eq]
  exact hdigit

theorem ofDigits_toDigits (n : ℕ) : ofDigits 10 (Nat.toDigits 10 n) = n := by
  rw [ofDigits_ten fun c h => isDecimal_of_mem_toDigits h, Nat.ofDigitChars_ten_toDigits]

/-- A positive number does not begin with a zero. -/
theorem head?_toDigits_ne (hn : n ≠ 0) : (Nat.toDigits 10 n).head? ≠ some '0' := by
  induction n using Nat.strongRecOn with
  | ind n ih =>
    by_cases hlt : n < 10
    · rw [Nat.toDigits_of_lt_base hlt, List.head?_cons, Ne, Option.some.injEq]
      intro h
      have hvalue := Nat.toNat_digitChar_of_lt_ten hlt
      rw [h] at hvalue
      have : '0'.toNat = 48 := rfl
      omega
    · -- The first digit is that of a tenth of the number, which is positive too.
      have hhead := ih (n / 10) (by omega) (by omega)
      obtain ⟨d, ds, hds⟩ :=
        List.exists_cons_of_ne_nil (Nat.toDigits_ne_nil (n := n / 10) (b := 10))
      rw [hds] at hhead
      rw [Nat.toDigits_of_base_le (by decide) (by omega), hds]
      exact hhead

theorem digit_lt (hc : isDecimal c) : c.toNat - '0'.toNat < 10 := by
  have hc := isDecimal_iff.1 hc
  have hzero : '0'.toNat = 48 := rfl
  omega

theorem toDigits_digit (hc : isDecimal c) : Nat.toDigits 10 (c.toNat - '0'.toNat) = [c] := by
  have hdigit := Nat.toNat_digitChar_of_lt_ten (digit_lt hc)
  have hc' := isDecimal_iff.1 hc
  have hzero : '0'.toNat = 48 := rfl
  rw [Nat.toDigits_of_lt_base (digit_lt hc), List.singleton_inj, ← Char.toNat_inj, hdigit]
  omega

variable {ds : List Char}

/-- Digits that follow a positive number make a larger one of it. -/
theorem toDigits_append (hn : 0 < n) (hds : ∀ c ∈ ds, isDecimal c) :
    Nat.toDigits 10 n ++ ds = Nat.toDigits 10 (Nat.ofDigitChars 10 ds n) := by
  induction ds generalizing n with
  | nil => exact List.append_nil _
  | cons d ds ih =>
    rw [List.forall_mem_cons] at hds
    rw [Nat.ofDigitChars_cons, ← ih (by omega) hds.2,
      ← Nat.toDigits_append_toDigits (by decide) hn (digit_lt hds.1), toDigits_digit hds.1,
      List.append_assoc, List.singleton_append]

/-- Digits without a needless zero in front are those of their number. -/
theorem eq_toDigits (hds : ∀ c ∈ ds, isDecimal c) (hne : ds ≠ [])
    (hzero : ds.head? = some '0' → ds = ['0']) :
    ds = Nat.toDigits 10 (Nat.ofDigitChars 10 ds 0) := by
  rcases ds with _ | ⟨d, ds⟩
  · exact absurd rfl hne
  · rw [List.forall_mem_cons] at hds
    by_cases hd : d = '0'
    · rw [hzero (by rw [hd]; rfl)]
      rfl
    · have hpos : 0 < d.toNat - '0'.toNat := by
        have hd' := isDecimal_iff.1 hds.1
        have hne : d.toNat ≠ '0'.toNat := mt Char.toNat_inj.1 hd
        have hzero : '0'.toNat = 48 := rfl
        omega
      rw [Nat.ofDigitChars_cons, Nat.mul_zero, Nat.zero_add, ← toDigits_append hpos hds.2,
        toDigits_digit hds.1, List.singleton_append]

end OpeningTerms.Text

namespace OpeningTerms.Toml

open OpeningTerms.Text

section

variable {ds : List Char}

theorem isDigitOf_of_isDecimal {c : Char} (h : isDecimal c) {base : ℕ} (hbase : 10 ≤ base) :
    isDigitOf base c := by
  have := isDecimal_iff.1 h
  rw [isDigitOf, hexValue?_of_isDecimal h, Option.any_some, decide_eq_true_eq]
  omega

theorem signed_of_isDecimal (h : ∀ c ∈ ds, isDecimal c) : signed ds = (none, ds) := by
  unfold signed
  split
  · exact absurd (h '+' List.mem_cons_self) (by decide)
  · exact absurd (h '-' List.mem_cons_self) (by decide)
  · rfl

theorem isSpaced_of_isDecimal (h : ∀ c ∈ ds, isDecimal c) (p : Char → Bool) (before : Bool) :
    isSpaced p before ds := by
  induction ds generalizing before with
  | nil => rfl
  | cons d ds ih =>
    rw [List.forall_mem_cons] at h
    have hd : d ≠ '_' := by
      rintro rfl
      exact absurd h.1 (by decide)
    rw [isSpaced, if_neg hd]
    exact ih h.2 _

theorem ungrouped_of_isDecimal (h : ∀ c ∈ ds, isDecimal c) : ungrouped ds = ds := by
  rw [ungrouped, List.filter_eq_self]
  intro c hc
  rw [decide_eq_true_eq]
  rintro rfl
  exact absurd (h '_' hc) (by decide)

/-- A word of digits is read as a number in base ten. -/
theorem wordValue?_of_isDecimal (h : ∀ c ∈ ds, isDecimal c) :
    wordValue? ds = decimalInteger? ds := by
  have hnot {c : Char} (hc : c ∈ ds) (hdec : isDecimal c = false) : False := by
    rw [h c hc] at hdec
    cases hdec
  have hdrop : ds.dropWhile isDecimal = [] := List.dropWhile_eq_nil_iff.2 h
  unfold wordValue?
  split
  · exact (hnot (c := 't') (by simp) rfl).elim
  · exact (hnot (c := 'f') (by simp) rfl).elim
  · exact (hnot (c := 'x') (by simp) rfl).elim
  · exact (hnot (c := 'o') (by simp) rfl).elim
  · exact (hnot (c := 'b') (by simp) rfl).elim
  · rw [signed_of_isDecimal h]
    split
    · rename_i he
      cases he
      exact (hnot (c := 'i') (by simp) rfl).elim
    · rename_i he
      cases he
      exact (hnot (c := 'n') (by simp) rfl).elim
    · simp only [numeral?, signed_of_isDecimal h, hdrop]

theorem decimalInteger?_toDigits (n : ℕ) :
    decimalInteger? (Nat.toDigits 10 n) = some (.ofInteger n) := by
  have h (c : Char) (hc : c ∈ Nat.toDigits 10 n) := isDecimal_of_mem_toDigits hc
  have hzero : hasNeedlessZero (Nat.toDigits 10 n) = false := by
    rw [hasNeedlessZero, ungrouped_of_isDecimal h]
    by_cases hn : n = 0
    · rw [hn]
      rfl
    · rw [decide_eq_false (head?_toDigits_ne hn), Bool.false_and]
  have hall : (Nat.toDigits 10 n).all (isDigitOf 10) :=
    List.all_eq_true.2 fun c hc => isDigitOf_of_isDecimal (h c hc) (Nat.le_refl _)
  rw [decimalInteger?, signed_of_isDecimal h]
  simp only [isSpaced_of_isDecimal h, hzero, ungrouped_of_isDecimal h, integerOf, hall,
    ofDigits_toDigits, ne_eq, Nat.toDigits_ne_nil, not_false_eq_true]
  rfl

/-- A number of at most 128 bits that is written in base ten is read as it was. -/
theorem wordValue?_toDigits {n : ℕ} (hn : n ≤ largestInteger) :
    wordValue? (Nat.toDigits 10 n) = some (.integer n) := by
  have hleast : leastInteger ≤ n := by
    rw [leastInteger]
    omega
  rw [wordValue?_of_isDecimal fun c hc => isDecimal_of_mem_toDigits hc, decimalInteger?_toDigits,
    Document.ofInteger, if_pos ⟨hleast, hn⟩]

end

end OpeningTerms.Toml
