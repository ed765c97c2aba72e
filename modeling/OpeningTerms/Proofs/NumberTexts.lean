import OpeningTerms.Json.Number
import OpeningTerms.Proofs.Numerals

/-!
# Numbers in JSON texts

A number is written as a whole part, perhaps with a minus sign in front, a fraction and an exponent
(`IsNumeral`); a whole part has no needless zero in front. What is read as a number is written so
(`exists_numeral`). It is read as far as it goes, so what is read of it is the same in front of any
text that begins with no more of a number (`number?_append_iff`).

Only what is written without a fraction and without an exponent can be an integer. Its digits go
into 64 bits, or else the number is a float (`integerOf`).

* `IsNumeral.integer_lt`: an integer is below `2 ^ 64`;
* `number?_eq_integer_iff`: a natural number of 64 bits is written in one way only, which is in base
  ten as `Nat.toDigits 10` has it.
-/

namespace OpeningTerms.Json

open OpeningTerms.Text

variable {c : Char} {ds s t rest : List Char}

/-! ## What is written -/

/-- Decimal digits, at least one. -/
structure IsDigits (ds : List Char) : Prop where
  ne_nil : ds ≠ []
  isDecimal : ∀ c ∈ ds, isDecimal c

/-- The whole part of a number has no needless zero in front. -/
structure IsWhole (ds : List Char) : Prop extends IsDigits ds where
  no_zero : ds.head? = some '0' → ds = ['0']

/-- The fraction of a number, if it has one. -/
inductive IsFraction : List Char → Prop
  | none : IsFraction []
  | some {ds : List Char} (hds : IsDigits ds) : IsFraction ('.' :: ds)

/-- The exponent of a number, if it has one. -/
inductive IsExponent : List Char → Prop
  | none : IsExponent []
  | some {e : Char} {sign ds : List Char} (he : e = 'e' ∨ e = 'E')
      (hsign : sign = [] ∨ sign = ['+'] ∨ sign = ['-']) (hds : IsDigits ds) :
      IsExponent (e :: (sign ++ ds))

/-- A number without its sign. -/
inductive IsUnsigned : List Char → Prop
  | intro {whole fraction exponent : List Char} (hwhole : IsWhole whole)
      (hfraction : IsFraction fraction) (hexponent : IsExponent exponent) :
      IsUnsigned (whole ++ (fraction ++ exponent))

/-- A number. -/
inductive IsNumeral : List Char → Prop
  | unsigned {t : List Char} (ht : IsUnsigned t) : IsNumeral t
  | negative {t : List Char} (ht : IsUnsigned t) : IsNumeral ('-' :: t)

/-- What may follow a number that has no sign, no fraction and no exponent. -/
def EndsNumber (c : Char) : Prop := isDecimal c = false ∧ c ≠ '.' ∧ c ≠ 'e' ∧ c ≠ 'E'

/-- A text in front of which a number ends. -/
def Ends (rest : List Char) : Prop := ∀ c ∈ rest.head?, EndsNumber c

theorem endsNumber_comma : EndsNumber ',' := ⟨rfl, by decide, by decide, by decide⟩

theorem endsNumber_bracket : EndsNumber ']' := ⟨rfl, by decide, by decide, by decide⟩

theorem endsNumber_brace : EndsNumber '\x7d' := ⟨rfl, by decide, by decide, by decide⟩

/-- A number ends where the text does. -/
theorem ends_nil : Ends [] := fun _ h => by cases h

theorem ends_cons (h : EndsNumber c) : Ends (c :: rest) := by
  rintro _ ⟨⟩
  exact h

theorem takeWhile_isDecimal_cons (hds : ∀ c ∈ ds, isDecimal c) (hc : isDecimal c = false)
    (rest : List Char) :
    (ds ++ c :: rest).takeWhile isDecimal = ds ∧
      (ds ++ c :: rest).dropWhile isDecimal = c :: rest := by
  rw [List.takeWhile_append_of_pos hds, List.dropWhile_append_of_pos hds,
    List.takeWhile_cons_of_neg (by simp [hc]), List.dropWhile_cons_of_neg (by simp [hc]),
    List.append_nil]
  exact ⟨rfl, rfl⟩

/-- Digits end in front of what does not begin with one. -/
theorem takeWhile_isDecimal (hds : ∀ c ∈ ds, isDecimal c)
    (hrest : ∀ c ∈ rest.head?, isDecimal c = false) :
    (ds ++ rest).takeWhile isDecimal = ds ∧ (ds ++ rest).dropWhile isDecimal = rest := by
  rcases rest with _ | ⟨c, rest⟩
  · rw [List.takeWhile_append_of_pos hds, List.dropWhile_append_of_pos hds]
    exact ⟨List.append_nil _, rfl⟩
  · exact takeWhile_isDecimal_cons hds (hrest c rfl) rest

theorem ne_of_isDecimal {d : Char} (hc : isDecimal c) (hd : isDecimal d = false) : c ≠ d := by
  rintro rfl
  rw [hc] at hd
  cases hd

theorem isDecimal_mark (hc : c = 'e' ∨ c = 'E') : isDecimal c = false := by
  rcases hc with rfl | rfl
  · rfl
  · rfl

/-- An exponent, or none, is read for what it is up to the end of the number. -/
theorem exponent?_append (ht : IsExponent t) :
    ∃ e, ∀ rest, Ends rest → exponent? (t ++ rest) = some (e, rest) := by
  rcases ht with _ | ⟨he, hsign, hds⟩
  · refine ⟨0, fun rest hrest => ?_⟩
    rcases rest with _ | ⟨c, rest⟩
    · rfl
    · obtain ⟨-, -, he, hE⟩ := hrest c rfl
      rw [List.nil_append, exponent?.eq_def]
      exact if_neg (by simp [he, hE])
  · rename_i e sign ds
    have hread (rest : List Char) (hrest : Ends rest) :=
      takeWhile_isDecimal hds.isDecimal fun c hc => (hrest c hc).1
    rcases hsign with rfl | rfl | rfl
    · refine ⟨ofDigits 10 ds, fun rest hrest => ?_⟩
      obtain ⟨htake, hdrop⟩ := hread rest hrest
      -- Without a sign, the first digit is what tells that there is none.
      obtain ⟨d, ds', rfl⟩ := List.exists_cons_of_ne_nil hds.ne_nil
      have hd : isDecimal d := hds.isDecimal d List.mem_cons_self
      rw [exponent?.eq_def]
      rw [List.cons_append] at htake hdrop
      simp only [List.cons_append, List.nil_append, he, if_true]
      split
      · exact absurd (List.cons.inj ‹_›).1 (ne_of_isDecimal hd rfl)
      · exact absurd (List.cons.inj ‹_›).1 (ne_of_isDecimal hd rfl)
      · simp only [htake, hdrop, hds.ne_nil, if_false, Bool.false_eq_true]
    · refine ⟨ofDigits 10 ds, fun rest hrest => ?_⟩
      simp only [List.cons_append, List.nil_append, exponent?, he, if_true, hread rest hrest,
        hds.ne_nil, if_false, Bool.false_eq_true]
    · refine ⟨-ofDigits 10 ds, fun rest hrest => ?_⟩
      simp only [List.cons_append, List.nil_append, exponent?, he, if_true, hread rest hrest,
        hds.ne_nil, if_false]

section

variable {whole fraction exponent : List Char} (negative : Bool)

/-- A whole part is none of those that the reader refuses. -/
theorem IsWhole.isProper (h : IsWhole whole) :
    ¬(whole = [] ∨ whole.head? = some '0' ∧ whole.length ≠ 1) := by
  rintro (hnil | ⟨hzero, hlength⟩)
  · exact h.ne_nil hnil
  · rw [h.no_zero hzero] at hlength
    exact hlength rfl

/-- Without a fraction and an exponent, a number is an integer as long as 64 bits hold it. -/
theorem unsigned?_whole (hwhole : IsWhole whole) (hrest : Ends rest) :
    unsigned? negative (whole ++ rest) = some (integerOf negative whole, rest) := by
  obtain ⟨htake, hdrop⟩ := takeWhile_isDecimal hwhole.isDecimal fun c hc => (hrest c hc).1
  simp only [unsigned?, htake, hdrop, if_neg hwhole.isProper]
  rcases rest with _ | ⟨c, rest⟩
  · rfl
  · obtain ⟨-, hpoint, he, hE⟩ := hrest c rfl
    simp [he, hE]

/-- With an exponent and no fraction, a number is a float. -/
theorem unsigned?_exponent (hwhole : IsWhole whole) (hexponent : IsExponent exponent)
    (hne : exponent ≠ []) :
    ∃ s e, ∀ rest, Ends rest →
      unsigned? negative (whole ++ (exponent ++ rest)) = some (floatOf negative s e, rest) := by
  obtain ⟨e, hread⟩ := exponent?_append hexponent
  refine ⟨(absorb 0 whole).1, (absorb 0 whole).2.length + e, fun rest hrest => ?_⟩
  have hread := hread rest hrest
  cases hexponent with
  | none => exact absurd rfl hne
  | @some c sign ds hc =>
    obtain ⟨htake, hdrop⟩ :=
      takeWhile_isDecimal_cons hwhole.isDecimal (isDecimal_mark hc) (sign ++ ds ++ rest)
    rw [List.cons_append] at hread ⊢
    simp only [unsigned?, htake, hdrop, if_neg hwhole.isProper]
    generalize sign ++ ds ++ rest = r at hread
    rcases hc with rfl | rfl
    · simp [hread]
    · simp [hread]

/-- With a fraction, a number is a float, whether it has an exponent or not. -/
theorem unsigned?_fraction (hwhole : IsWhole whole) (hds : IsDigits ds)
    (hexponent : IsExponent exponent) :
    ∃ s e, ∀ rest, Ends rest →
      unsigned? negative (whole ++ ('.' :: ds ++ (exponent ++ rest))) =
        some (floatOf negative s e, rest) := by
  obtain ⟨e, hread⟩ := exponent?_append hexponent
  refine ⟨(absorb (absorb 0 whole).1 ds).1, (absorb 0 whole).2.length -
    (ds.length - (absorb (absorb 0 whole).1 ds).2.length : ℕ) + e, fun rest hrest => ?_⟩
  have hread := hread rest hrest
  -- The digits of the fraction end at the exponent, or where the number does.
  have hend : ∀ c ∈ (exponent ++ rest).head?, isDecimal c = false := by
    intro c hc
    cases hexponent with
    | none => exact (hrest c hc).1
    | some he =>
      cases hc
      exact isDecimal_mark he
  obtain ⟨htake, hdrop⟩ :=
    takeWhile_isDecimal_cons (c := '.') hwhole.isDecimal rfl (ds ++ (exponent ++ rest))
  obtain ⟨htake', hdrop'⟩ := takeWhile_isDecimal hds.isDecimal hend
  simp only [List.cons_append, unsigned?, htake, hdrop, if_neg hwhole.isProper, htake', hdrop',
    if_neg hds.ne_nil, hread, Option.map_some]

/-- A number without a sign is whole, or is read as a float whatever follows. -/
theorem unsigned?_cases (ht : IsUnsigned t) :
    IsWhole t ∨ ∃ s e, ∀ rest, Ends rest →
      unsigned? negative (t ++ rest) = some (floatOf negative s e, rest) := by
  obtain ⟨hwhole, hfraction, hexponent⟩ := ht
  -- A fraction or an exponent makes a float; without both, only the whole part is left.
  cases hfraction with
  | none =>
    cases hexponent with
    | none =>
      left
      rwa [List.append_nil, List.append_nil]
    | some hc hsign hds =>
      obtain ⟨s, e, h⟩ := unsigned?_exponent negative hwhole (.some hc hsign hds) (by simp)
      refine .inr ⟨s, e, fun rest hrest => ?_⟩
      rw [List.nil_append, List.append_assoc, h rest hrest]
  | some hds =>
    obtain ⟨s, e, h⟩ := unsigned?_fraction negative hwhole hds hexponent
    refine .inr ⟨s, e, fun rest hrest => ?_⟩
    rw [List.append_assoc, List.append_assoc, h rest hrest]

/-- Where a number without a sign ends, and what is read of it, does not depend on what follows. -/
theorem unsigned?_append (ht : IsUnsigned t) :
    ∃ n, ∀ rest, Ends rest → unsigned? negative (t ++ rest) = some (n, rest) := by
  rcases unsigned?_cases negative ht with hwhole | ⟨s, e, h⟩
  · exact ⟨_, fun rest => unsigned?_whole negative hwhole⟩
  · exact ⟨_, h⟩

end

/-- A whole part alone is a number without a sign. -/
theorem IsWhole.isUnsigned (h : IsWhole t) : IsUnsigned t := by
  simpa using IsUnsigned.intro h .none .none

/-- A number without a sign begins with a digit. -/
theorem IsUnsigned.exists_cons (ht : IsUnsigned t) : ∃ d r, t = d :: r ∧ isDecimal d := by
  obtain ⟨hwhole, -, -⟩ := ht
  obtain ⟨d, r, rfl⟩ := List.exists_cons_of_ne_nil hwhole.ne_nil
  exact ⟨d, _, rfl, hwhole.isDecimal d List.mem_cons_self⟩

/-- A number begins with a digit or with a minus sign. -/
theorem IsNumeral.exists_cons (ht : IsNumeral t) :
    ∃ d r, t = d :: r ∧ (isDecimal d ∨ d = '-') := by
  cases ht with
  | unsigned ht =>
    obtain ⟨d, r, rfl, hd⟩ := ht.exists_cons
    exact ⟨d, r, rfl, .inl hd⟩
  | negative => exact ⟨'-', _, rfl, .inr rfl⟩

/-- Without a minus sign in front, there is no sign. -/
theorem number?_of_isUnsigned (ht : IsUnsigned t) (rest : List Char) :
    number? (t ++ rest) = unsigned? false (t ++ rest) := by
  obtain ⟨d, r, rfl, hd⟩ := ht.exists_cons
  rw [number?]
  rintro s h
  exact absurd (List.cons.inj h).1 (ne_of_isDecimal hd rfl)

/-- Where a number ends, and what is read of it, does not depend on what follows. -/
theorem exists_number? (ht : IsNumeral t) :
    ∃ n, ∀ rest, Ends rest → number? (t ++ rest) = some (n, rest) := by
  cases ht with
  | unsigned ht =>
    simp only [number?_of_isUnsigned ht]
    exact unsigned?_append false ht
  | negative ht => exact unsigned?_append true ht

/-- A number is read by itself as it is read in front of a text. -/
theorem number?_append_iff (ht : IsNumeral t) {n : Number} (hrest : Ends rest) :
    number? (t ++ rest) = some (n, rest) ↔ number? t = some (n, []) := by
  -- Both sides are instances of what is read in front of any text.
  obtain ⟨n', hread⟩ := exists_number? ht
  have hwhole := hread [] ends_nil
  rw [List.append_nil] at hwhole
  rw [hread rest hrest, hwhole, Option.some.injEq, Option.some.injEq, Prod.mk.injEq, Prod.mk.injEq,
    eq_self, eq_self]

/-! ## What is read -/

theorem isDigits_takeWhile (h : s.takeWhile isDecimal ≠ []) : IsDigits (s.takeWhile isDecimal) :=
  ⟨h, fun _ hc => List.mem_takeWhile_imp hc⟩

/-- Behind the mark of an exponent there may be a sign, and then there have to be digits. -/
theorem exists_sign (hc : c = 'e' ∨ c = 'E') (r : List Char) :
    ∃ sign ds e, (sign = [] ∨ sign = ['+'] ∨ sign = ['-']) ∧ r = sign ++ ds ∧
      exponent? (c :: r) =
        if ds.takeWhile isDecimal = [] then none else some (e, ds.dropWhile isDecimal) := by
  -- Either mark is read in the same way.
  have hmark : exponent? (c :: r) = exponent? ('e' :: r) := by
    rcases hc with rfl | rfl
    · rfl
    · rfl
  rw [hmark]
  rw [exponent?.eq_def]
  simp only [true_or, if_true]
  split
  · exact ⟨['-'], _, _, .inr (.inr rfl), rfl, rfl⟩
  · exact ⟨['+'], _, _, .inr (.inl rfl), rfl, rfl⟩
  · exact ⟨[], _, _, .inl rfl, rfl, rfl⟩

/-- What is read as an exponent is one, and the rest of the text is behind it. -/
theorem exists_exponent {e : ℤ} (h : exponent? s = some (e, rest)) :
    ∃ t, IsExponent t ∧ s = t ++ rest := by
  rcases s with _ | ⟨c, r⟩
  · cases h
    exact ⟨[], .none, rfl⟩
  · by_cases hc : c = 'e' ∨ c = 'E'
    · obtain ⟨sign, ds, n, hsign, rfl, hread⟩ := exists_sign hc r
      rw [h] at hread
      split_ifs at hread with hds
      cases hread
      refine ⟨_, .some hc hsign (isDigits_takeWhile hds), ?_⟩
      rw [List.cons_append, List.append_assoc, List.takeWhile_append_dropWhile]
    · rw [exponent?.eq_def] at h
      simp only [if_neg hc] at h
      cases h
      exact ⟨[], .none, rfl⟩

/-- What is read as a number without a sign is one, and the rest of the text is behind it. -/
theorem exists_unsigned {negative : Bool} {n : Number} (h : unsigned? negative s = some (n, rest)) :
    ∃ t, IsUnsigned t ∧ s = t ++ rest := by
  have hs : s = s.takeWhile isDecimal ++ s.dropWhile isDecimal :=
    List.takeWhile_append_dropWhile.symm
  simp only [unsigned?] at h
  split_ifs at h with hproper
  rw [not_or, not_and, not_not] at hproper
  -- A zero in front has been refused, unless it is the only digit.
  have hwhole : IsWhole (s.takeWhile isDecimal) := by
    refine ⟨isDigits_takeWhile hproper.1, fun hzero => ?_⟩
    obtain ⟨c, hc⟩ := List.length_eq_one_iff.1 (hproper.2 hzero)
    rw [hc] at hzero ⊢
    cases hzero
    rfl
  generalize s.takeWhile isDecimal = whole at *
  generalize s.dropWhile isDecimal = left at *
  rw [hs]
  -- A point, a mark, something else or the end of the text follows the whole part.
  split at h
  · rename_i r
    split_ifs at h with hfraction
    obtain ⟨⟨e, rest'⟩, he, hn⟩ := Option.map_eq_some_iff.1 h
    cases hn
    obtain ⟨exponent, hexponent, hr⟩ := exists_exponent he
    refine ⟨_, .intro hwhole (.some (isDigits_takeWhile hfraction)) hexponent, ?_⟩
    rw [List.append_assoc, List.append_assoc, List.cons_append, ← hr,
      List.takeWhile_append_dropWhile]
  · rename_i c r _
    split_ifs at h with hc
    · obtain ⟨⟨e, rest'⟩, he, hn⟩ := Option.map_eq_some_iff.1 h
      cases hn
      obtain ⟨exponent, hexponent, hr⟩ := exists_exponent he
      exact ⟨_, .intro hwhole .none hexponent, by rw [hr, List.append_assoc, List.nil_append]⟩
    · cases h
      exact ⟨whole, hwhole.isUnsigned, rfl⟩
  · cases h
    exact ⟨whole, hwhole.isUnsigned, rfl⟩

/-- What is read as a number is one, and the rest of the text is behind it. -/
theorem exists_numeral {n : Number} (h : number? s = some (n, rest)) :
    ∃ t, IsNumeral t ∧ s = t ++ rest := by
  rw [number?.eq_def] at h
  split at h
  · obtain ⟨t, ht, rfl⟩ := exists_unsigned h
    exact ⟨_, .negative ht, rfl⟩
  · obtain ⟨t, ht, hs⟩ := exists_unsigned h
    exact ⟨t, .unsigned ht, hs⟩

/-! ## Natural numbers -/

/-- Digits go into a significand that has room for them all. -/
theorem absorb_of_isDecimal (hds : ∀ c ∈ ds, isDecimal c) {n : ℕ}
    (hn : Nat.ofDigitChars 10 ds n < significandBound) :
    absorb n ds = (Nat.ofDigitChars 10 ds n, []) := by
  induction ds generalizing n with
  | nil => rfl
  | cons d ds ih =>
    rw [List.forall_mem_cons] at hds
    have hd : 10 * n + ofDigits 10 [d] = 10 * n + (d.toNat - '0'.toNat) := by
      rw [ofDigits_ten (List.forall_mem_singleton.2 hds.1)]
      simp [Nat.ofDigitChars_cons]
    rw [Nat.ofDigitChars_cons, ← hd] at hn ⊢
    -- The digits so far are worth no more than all of them.
    have hroom : 10 * n + ofDigits 10 [d] < significandBound := by
      rw [Nat.ofDigitChars_eq_ofDigitChars_zero] at hn
      have := Nat.le_mul_of_pos_left (10 * n + ofDigits 10 [d]) (Nat.pow_pos (n := ds.length)
        (show 0 < 10 by decide))
      omega
    simp only [absorb, hroom, if_true]
    exact ih hds.2 hn

/-- If all digits have gone into the significand, it is the number that they write. -/
theorem eq_of_absorb {n m : ℕ} (hds : ∀ c ∈ ds, isDecimal c) (h : absorb n ds = (m, [])) :
    m = Nat.ofDigitChars 10 ds n := by
  induction ds generalizing n with
  | nil =>
    cases h
    rfl
  | cons d ds ih =>
    rw [List.forall_mem_cons] at hds
    rw [absorb] at h
    -- A digit without room would have been left over.
    split at h
    · rw [ih hds.2 h, ofDigits_ten (List.forall_mem_singleton.2 hds.1)]
      simp [Nat.ofDigitChars_cons]
    · cases h

/-- A significand stays within its bound. -/
theorem absorb_lt {n : ℕ} (hn : n < significandBound) : (absorb n ds).1 < significandBound := by
  induction ds generalizing n with
  | nil => exact hn
  | cons d ds ih =>
    simp only [absorb]
    split_ifs with hroom
    · exact ih hroom
    · exact hn

/-- A float is no integer, not even one without a fraction. -/
theorem floatOf_ne_integer (negative : Bool) (s : ℕ) (e n : ℤ) :
    floatOf negative s e ≠ .integer n := by
  unfold floatOf
  split
  · simp
  · simp

/-- The digits of a natural number are a whole part: only zero begins with a zero. -/
theorem isWhole_toDigits (n : ℕ) : IsWhole (Nat.toDigits 10 n) where
  ne_nil := Nat.toDigits_ne_nil
  isDecimal _ h := isDecimal_of_mem_toDigits h
  no_zero h := by
    have hn : n = 0 := by
      by_contra hn
      exact head?_toDigits_ne hn h
    rw [hn]
    rfl

theorem unsigned?_eq_integer {negative : Bool} {n : ℤ} (ht : IsUnsigned t)
    (h : unsigned? negative t = some (.integer n, [])) :
    IsWhole t ∧ integerOf negative t = .integer n := by
  rcases unsigned?_cases negative ht with hwhole | ⟨s, e, hfloat⟩
  · have hread := unsigned?_whole negative hwhole ends_nil
    rw [List.append_nil, h, Option.some.injEq, Prod.mk.injEq] at hread
    exact ⟨hwhole, hread.1.symm⟩
  · have hread := hfloat [] ends_nil
    rw [List.append_nil, h, Option.some.injEq, Prod.mk.injEq] at hread
    exact absurd hread.1.symm (floatOf_ne_integer negative s e n)

theorem integerOf_toDigits {n : ℕ} (hn : n < significandBound) :
    integerOf false (Nat.toDigits 10 n) = .integer n := by
  have habsorb := absorb_of_isDecimal (n := 0)
    (fun c hc => isDecimal_of_mem_toDigits (n := n) hc) (by rwa [Nat.ofDigitChars_ten_toDigits])
  rw [Nat.ofDigitChars_ten_toDigits] at habsorb
  simp [integerOf, habsorb]

/-- A natural number is worth its digits, and has no sign. -/
theorem of_integerOf {negative : Bool} {n : ℕ} (hds : ∀ c ∈ ds, isDecimal c)
    (h : integerOf negative ds = .integer n) : negative = false ∧ n = Nat.ofDigitChars 10 ds 0 := by
  rcases habsorb : absorb 0 ds with ⟨m, left⟩
  simp only [integerOf, habsorb] at h
  split_ifs at h with hleft hsign hrange
  · exact absurd h (floatOf_ne_integer _ _ _ _)
  · rw [not_not] at hleft
    rw [hleft] at habsorb
    rw [Number.integer.injEq, Int.natCast_inj] at h
    rw [← h, eq_of_absorb hds habsorb]
    exact ⟨by simpa using hsign, rfl⟩
  · exact absurd h (floatOf_ne_integer _ _ _ _)
  · -- Below zero, a number is no natural one.
    rw [Number.integer.injEq] at h
    omega

/-- An integer is read as one only if 64 bits hold it. -/
theorem IsNumeral.integer_lt (ht : IsNumeral t) {n : ℤ} (h : number? t = some (.integer n, [])) :
    n < significandBound := by
  have hread : ∃ negative ds, integerOf negative ds = .integer n := by
    cases ht with
    | unsigned ht =>
      have hread := number?_of_isUnsigned ht []
      rw [List.append_nil, h] at hread
      exact ⟨_, _, (unsigned?_eq_integer ht hread.symm).2⟩
    | negative ht => exact ⟨_, _, (unsigned?_eq_integer ht (show unsigned? true _ = _ from h)).2⟩
  obtain ⟨negative, ds, hread⟩ := hread
  have hlt : (absorb 0 ds).1 < significandBound := absorb_lt (by decide)
  simp only [integerOf] at hread
  split_ifs at hread
  · exact absurd hread (floatOf_ne_integer _ _ _ _)
  · rw [Number.integer.injEq] at hread
    omega
  · exact absurd hread (floatOf_ne_integer _ _ _ _)
  · rw [Number.integer.injEq] at hread
    omega

/-- A natural number of 64 bits is written in one way only. -/
theorem number?_eq_integer_iff (ht : IsNumeral t) {n : ℕ} (hn : n < significandBound) :
    number? t = some (.integer n, []) ↔ t = Nat.toDigits 10 n := by
  constructor
  · intro h
    cases ht with
    | unsigned ht =>
      have hread := number?_of_isUnsigned ht []
      rw [List.append_nil, h] at hread
      obtain ⟨hwhole, hinteger⟩ := unsigned?_eq_integer ht hread.symm
      rw [(of_integerOf hwhole.isDecimal hinteger).2]
      exact eq_toDigits hwhole.isDecimal hwhole.ne_nil hwhole.no_zero
    | negative ht =>
      obtain ⟨hwhole, hinteger⟩ := unsigned?_eq_integer ht (show unsigned? true _ = _ from h)
      cases (of_integerOf hwhole.isDecimal hinteger).1
  · rintro rfl
    have hread := unsigned?_whole false (isWhole_toDigits n) ends_nil
    rw [← number?_of_isUnsigned (isWhole_toDigits n).isUnsigned, List.append_nil] at hread
    rw [hread, integerOf_toDigits hn]

end OpeningTerms.Json
