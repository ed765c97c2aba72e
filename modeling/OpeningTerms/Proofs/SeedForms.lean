import OpeningTerms.Proofs.RoundTrip

/-!
# Seeds in arrays and in objects

In JSON a seed is an array of its halves in order, or an object that has them under their names. An
array is looked at by position, an object member by member, where each member finds what the
members before it have given.

That a half is given once, and is given as the value under its name, is one equation of lists
(`Halves.Extends`): the values that a half was given as are those from before with those of the
members behind them. A half has room for one value only. So a member is taken exactly if the
equation can hold behind it (`Halves.member_ok_iff`), which adds up over all members, in whatever
order they come (`Halves.foldlM_member_ok_iff`). What an object gives then depends on the values
under the two names alone (`seed_object_ok_iff`), as what an array gives depends on its items
(`seed_array_ok_iff`).

* `Seed.ofJson_forms`: up to two values give the same seed in both forms, or fail in both. They give
  one if they are natural numbers of 64 bits, with the halves of the standard seed for those that
  are missing. An array of more values fails, and so does an object that has a half twice.

The values are any, and so are their texts (`Value.IsReadFrom`), with white space and with other
members wherever JSON has room for them.
-/

namespace OpeningTerms.Json

variable {v : Value} {x : List Value} {m : Option String × Value}
  {ms ms' : List (Option String × Value)} {h h' h'' : Halves} {s : Seed} {d n : UInt64}
  {o o' : Option UInt64} {k : String} {text : String}

/-! ## What is given -/

/-- The values under the names of the halves, in order. -/
def named (x : List Value) : List (Option String × Value) := [some "previous", some "current"].zip x

/-- The members are, in whatever order, the values under the names of the halves, and others under
    other names. -/
def Holds (ms : List (Option String × Value)) (x : List Value) : Prop :=
  ∃ others, ms.Perm (named x ++ others) ∧
    ∀ m ∈ others, ∃ k, m.1 = some k ∧ k ≠ "previous" ∧ k ≠ "current"

/-- The values are the halves of the seed as far as they go, and the missing ones are those of the
    standard seed. -/
@[mk_iff]
structure Gives (x : List Value) (s : Seed) : Prop where
  previous : x[0]? = some (amountValue s.previous) ∨ x[0]? = none ∧ s.previous = 0
  current : x[1]? = some (amountValue s.current) ∨ x[1]? = none ∧ s.current = 1

/-! ## Amounts -/

/-- A value that some text is written for. -/
def Value.IsWritten (v : Value) : Prop := ∃ t, Spells t v

/-- Different numbers are different values. -/
theorem amountValue_inj {n n' : UInt64} : amountValue n = amountValue n' ↔ n = n' := by
  simp [amountValue, UInt64.toNat_inj]

/-- A value is an amount exactly if it is a natural number that 64 bits hold. -/
theorem Value.IsWritten.amount_ok_iff (hv : v.IsWritten) :
    v.amount = .ok n ↔ v = amountValue n := by
  constructor
  · intro hn
    obtain ⟨t, hv⟩ := hv
    cases hv with
    | @number t number hnumeral hnumber =>
      cases number with
      | integer i =>
        rw [Value.amount] at hn
        split_ifs at hn with hi
        rw [Except.ok.injEq] at hn
        -- No text is read as a larger integer, so the word holds it.
        have hlt : i < (2 ^ 64 : ℕ) := hnumeral.integer_lt hnumber
        have hsize : i.toNat < UInt64.size := by
          rw [UInt64.size]
          omega
        rw [← hn, amountValue, UInt64.toNat_ofNat_of_lt' hsize, Int.toNat_of_nonneg hi]
      | _ => cases hn
    | _ => cases hn
  · rintro rfl
    exact Seed.amount_amountValue n

/-! ## Halves -/

/-- The halves of a seed. -/
inductive Half where
  | previous
  | current
deriving DecidableEq

namespace Half

/-- The name of a half in an object. -/
def key : Half → String
  | previous => "previous"
  | current => "current"

/-- The place of a half in an array. -/
def place : Half → ℕ
  | previous => 0
  | current => 1

/-- A half of the standard seed. -/
def standard : Half → UInt64
  | previous => 0
  | current => 1

theorem key_injective : Function.Injective key := by
  rintro (_ | _) (_ | _) h <;> simp_all [key]

end Half

variable {b b' : Half}

/-- A half of a seed. -/
def half (s : Seed) : Half → UInt64
  | .previous => s.previous
  | .current => s.current

/-- A seed is known by its halves. -/
theorem eq_of_half {s s' : Seed} (h : ∀ b, half s b = half s' b) : s = s' := by
  obtain ⟨p, c⟩ := s
  obtain ⟨p', c'⟩ := s'
  exact congrArg₂ Seed.mk (h .previous) (h .current)

namespace Halves

/-- A half as far as it has been given. -/
def get (h : Halves) : Half → Option UInt64
  | .previous => h.previous
  | .current => h.current

/-- The halves with a half that is given. -/
def put (h : Halves) (b : Half) (n : UInt64) : Halves :=
  match b with
  | .previous => { h with previous := some n }
  | .current => { h with current := some n }

@[simp]
theorem get_put_self (h : Halves) (b : Half) (n : UInt64) : (h.put b n).get b = some n := by
  cases b <;> rfl

theorem get_put_of_ne (hb : b' ≠ b) : (h.put b n).get b' = h.get b' := by
  cases b <;> cases b' <;> first | exact absurd rfl hb | rfl

theorem eq_of_get (hget : ∀ b, h.get b = h'.get b) : h = h' := by
  obtain ⟨p, c⟩ := h
  obtain ⟨p', c'⟩ := h'
  exact congrArg₂ Halves.mk (hget .previous) (hget .current)

/-- The two halves may be given in any combination. -/
theorem exists_get (f : Half → Option UInt64) : ∃ h : Halves, ∀ b, h.get b = f b :=
  ⟨⟨f .previous, f .current⟩, fun b => by cases b <;> rfl⟩

/-- What has not been given is taken from the standard seed. -/
theorem half_seed (h : Halves) (b : Half) : half h.seed b = (h.get b).getD b.standard := by
  cases b <;> rfl

/-- The member of a half gives it, unless it has been given before. -/
theorem member_key (h : Halves) (b : Half) (v : Value) :
    h.member (some b.key, v) =
      if (h.get b).isSome then .error (.mismatch (.duplicate b.key))
      else v.amount.map (h.put b) := by
  cases b <;> rfl

/-- Any other member leaves the halves as they are. -/
theorem member_other (hk : ∀ b : Half, k ≠ b.key) (hv : v.isWhole) :
    h.member (some k, v) = .ok h := by
  simp only [member, if_neg (show k ≠ "previous" from hk .previous),
    if_neg (show k ≠ "current" from hk .current), hv, if_true]

end Halves

/-! ## Members -/

/-- The values of the members with a name, in order. -/
def valuesUnder (k : String) (ms : List (Option String × Value)) : List Value :=
  (ms.filter fun m => m.1 == some k).map Prod.snd

theorem valuesUnder_append (k : String) (ms ms' : List (Option String × Value)) :
    valuesUnder k (ms ++ ms') = valuesUnder k ms ++ valuesUnder k ms' := by
  rw [valuesUnder, List.filter_append, List.map_append, valuesUnder, valuesUnder]

theorem valuesUnder_self (k : String) (v : Value) : valuesUnder k [(some k, v)] = [v] := by
  simp [valuesUnder]

/-- A name that no member has stands for no values. -/
theorem valuesUnder_eq_nil (hms : ∀ m ∈ ms, m.1 ≠ some k) : valuesUnder k ms = [] := by
  rw [valuesUnder, List.map_eq_nil_iff, List.filter_eq_nil_iff]
  exact fun m hm => by simpa using hms m hm

theorem valuesUnder_of_ne (hb : b' ≠ b) (v : Value) : valuesUnder b'.key [(some b.key, v)] = [] :=
  valuesUnder_eq_nil (by simpa using fun h => hb (Half.key_injective h.symm))

/-- A name stands for as many values as there are members with it. -/
theorem length_valuesUnder (k : String) (ms : List (Option String × Value)) :
    (valuesUnder k ms).length = (ms.map Prod.fst).count (some k) := by
  simp [valuesUnder, List.count_eq_length_filter, List.filter_map, Function.comp_def]

/-- A half as the values that it was given as: one, or none. -/
def halfValues (o : Option UInt64) : List Value := o.toList.map amountValue

theorem halfValues_inj : halfValues o = halfValues o' ↔ o = o' := by
  rcases o with _ | n
  · rcases o' with _ | n' <;> simp [halfValues]
  · rcases o' with _ | n' <;> simp [halfValues, amountValue_inj]

/-- Only a half that is given is written as a value, and it is written as one. -/
theorem halfValues_eq_singleton_iff : halfValues o = [v] ↔ ∃ n, v = amountValue n ∧ o = some n := by
  rcases o with _ | n
  · simp [halfValues]
  · simp [halfValues, eq_comm]

theorem length_halfValues_le (o : Option UInt64) : (halfValues o).length ≤ 1 := by
  rcases o with _ | n <;> simp [halfValues]

/-- The values of a half cannot be split but into all of them and none. -/
theorem exists_halfValues_of_append {vs ws : List Value} (hvs : halfValues o = vs ++ ws) :
    ∃ o', halfValues o' = vs := by
  rcases o with _ | n
  · rw [halfValues, Option.toList_none, List.map_nil, List.nil_eq, List.append_eq_nil_iff] at hvs
    exact ⟨none, hvs.1.symm⟩
  · rw [halfValues, Option.toList_some, List.map_singleton, List.singleton_eq_append_iff] at hvs
    rcases hvs with ⟨rfl, -⟩ | ⟨rfl, -⟩
    · exact ⟨none, rfl⟩
    · exact ⟨some n, rfl⟩

/-- Each half has been given as the values under its name, besides what was given before. -/
def Halves.Extends (h h' : Halves) (ms : List (Option String × Value)) : Prop :=
  ∀ b, halfValues (h'.get b) = halfValues (h.get b) ++ valuesUnder b.key ms

namespace Halves

/-- Members of neither half leave the halves as they are. -/
theorem extends_of_other (hms : ∀ m ∈ ms, ∀ b : Half, m.1 ≠ some b.key) :
    h.Extends h' ms ↔ h = h' := by
  constructor
  · intro he
    refine eq_of_get fun b => halfValues_inj.1 ?_
    rw [he b, valuesUnder_eq_nil fun m hm => hms m hm b, List.append_nil]
  · rintro rfl b
    rw [valuesUnder_eq_nil fun m hm => hms m hm b, List.append_nil]

/-- The member of a half gives this half, if it has not been given before. -/
theorem extends_key (hget : h.get b = none) :
    h.Extends h' [(some b.key, v)] ↔ ∃ n, v = amountValue n ∧ h.put b n = h' := by
  constructor
  · intro he
    have hb := he b
    rw [hget, valuesUnder_self] at hb
    obtain ⟨n, hv, hn⟩ := halfValues_eq_singleton_iff.1 hb
    refine ⟨n, hv, eq_of_get fun b' => ?_⟩
    -- The half itself has the new value; the other one is as it was.
    by_cases hbb : b' = b
    · rw [hbb, get_put_self, hn]
    · rw [get_put_of_ne hbb]
      have hb' := he b'
      rw [valuesUnder_of_ne hbb, List.append_nil] at hb'
      exact (halfValues_inj.1 hb').symm
  · rintro ⟨n, rfl, rfl⟩ b'
    by_cases hbb : b' = b
    · rw [hbb, get_put_self, hget, valuesUnder_self]
      rfl
    · rw [get_put_of_ne hbb, valuesUnder_of_ne hbb, List.append_nil]

/-- What is given by members in a row is given by all of them. -/
theorem Extends.trans (h₁ : h.Extends h' ms) (h₂ : h'.Extends h'' ms') :
    h.Extends h'' (ms ++ ms') := fun b => by
  rw [h₂ b, h₁ b, valuesUnder_append, List.append_assoc]

/-- What members in a row have given was given by the first of them and then by the others. -/
theorem Extends.exists_between (he : h.Extends h'' (ms ++ ms')) :
    ∃ h', h.Extends h' ms ∧ h'.Extends h'' ms' := by
  -- For each half, the values in the middle are a part of those at the end.
  have hbetween (b : Half) : ∃ o, halfValues o = halfValues (h.get b) ++ valuesUnder b.key ms := by
    have hb := he b
    rw [valuesUnder_append, ← List.append_assoc] at hb
    exact exists_halfValues_of_append hb
  choose f hf using hbetween
  obtain ⟨h', hget⟩ := exists_get f
  refine ⟨h', fun b => by rw [hget, hf], fun b => ?_⟩
  rw [hget, hf, he b, valuesUnder_append, List.append_assoc]

/-- A member has to have a name. If it is that of a half, then the half is given with it, and has
    not been given before. -/
theorem member_ok_iff (hm : m.2.IsWritten) :
    h.member m = .ok h' ↔ m.1 ≠ none ∧ h.Extends h' [m] := by
  obtain ⟨_ | k, v⟩ := m
  · simp [member]
  -- The member is that of a half, whichever it is, or of neither.
  rw [and_iff_right (by simp)]
  by_cases hk : ∃ b : Half, k = b.key
  · obtain ⟨b, rfl⟩ := hk
    rw [member_key]
    cases hget : h.get b with
    | none =>
      rw [extends_key hget, if_neg (by simp), Toml.map_ok_iff]
      simp only [hm.amount_ok_iff]
    | some n =>
      -- There is no room for two values.
      rw [if_pos Option.isSome_some]
      refine iff_of_false (by simp) fun he => ?_
      have hlength := length_halfValues_le (h'.get b)
      rw [he b, hget, valuesUnder_self] at hlength
      simp [halfValues] at hlength
  · rw [not_exists] at hk
    obtain ⟨t, ht⟩ := hm
    rw [member_other hk ht.isWhole, Except.ok.injEq,
      extends_of_other (by simpa using hk)]

/-- The members of an object, one after the other. -/
theorem foldlM_member_ok_iff (hms : ∀ m ∈ ms, m.2.IsWritten) :
    ms.foldlM member h = .ok h' ↔ (∀ m ∈ ms, m.1 ≠ none) ∧ h.Extends h' ms := by
  induction ms generalizing h with
  | nil =>
    rw [extends_of_other (by simp), List.foldlM_nil]
    simp [pure, Except.pure]
  | cons m ms ih =>
    rw [List.forall_mem_cons] at hms
    have hstep : (m :: ms).foldlM member h = (h.member m).bind (ms.foldlM member ·) :=
      List.foldlM_cons ..
    rw [hstep, Toml.bind_ok_iff, List.forall_mem_cons]
    simp only [member_ok_iff hms.1, ih hms.2]
    constructor
    · rintro ⟨h₁, ⟨hname, hfirst⟩, hnames, hrest⟩
      exact ⟨⟨hname, hnames⟩, hfirst.trans hrest⟩
    · rintro ⟨⟨hname, hnames⟩, he⟩
      -- The halves behind the first member are those that the equation asks for there.
      obtain ⟨h₁, hfirst, hrest⟩ := Extends.exists_between (show h.Extends h' ([m] ++ ms) from he)
      exact ⟨h₁, ⟨hname, hfirst⟩, hnames, hrest⟩

end Halves

/-! ## Seeds -/

/-- A half that is given at most once, or else is that of the standard seed. -/
def IsHalf (vs : List Value) (d n : UInt64) : Prop := vs = [amountValue n] ∨ vs = [] ∧ n = d

/-- A half is what was given for it, or the standard. -/
theorem isHalf_iff {vs : List Value} : IsHalf vs d n ↔ ∃ o, halfValues o = vs ∧ o.getD d = n := by
  constructor
  · rintro (rfl | ⟨rfl, rfl⟩)
    · exact ⟨some n, rfl, rfl⟩
    · exact ⟨none, rfl, rfl⟩
  · rintro ⟨_ | n, rfl, rfl⟩
    · exact .inr ⟨rfl, rfl⟩
    · exact .inl rfl

/-- The two cases of `Gives`, said once for both halves. -/
theorem gives_iff_isHalf :
    Gives x s ↔ ∀ b : Half, IsHalf x[b.place]?.toList b.standard (half s b) := by
  have hhalf (v? : Option Value) (d n : UInt64) :
      IsHalf v?.toList d n ↔ v? = some (amountValue n) ∨ v? = none ∧ n = d := by
    rcases v? with _ | v <;> simp [IsHalf]
  simp only [hhalf]
  exact ⟨fun ⟨hp, hc⟩ b => by cases b <;> assumption, fun h => ⟨h .previous, h .current⟩⟩

/-- An object is a seed if its members have names, and if each half is given at most once. -/
theorem seed_object_ok_iff (hms : ∀ m ∈ ms, m.2.IsWritten) :
    (Value.object ms).seed = .ok s ↔ (∀ m ∈ ms, m.1 ≠ none) ∧
      ∀ b : Half, IsHalf (valuesUnder b.key ms) b.standard (half s b) := by
  have hstart (h : Halves) :
      Halves.Extends {} h ms ↔ ∀ b, halfValues (h.get b) = valuesUnder b.key ms := by
    have hnone (b : Half) : halfValues (Halves.get {} b) = [] := by cases b <;> rfl
    simp only [Halves.Extends, hnone, List.nil_append]
  rw [Value.seed, Toml.map_ok_iff]
  simp only [Halves.foldlM_member_ok_iff hms, hstart, isHalf_iff]
  constructor
  · rintro ⟨h, ⟨hnames, hvalues⟩, rfl⟩
    exact ⟨hnames, fun b => ⟨h.get b, hvalues b, (h.half_seed b).symm⟩⟩
  · rintro ⟨hnames, hhalf⟩
    choose f hvalues hf using hhalf
    obtain ⟨h, hget⟩ := Halves.exists_get f
    exact ⟨h, ⟨hnames, fun b => by rw [hget, hvalues]⟩,
      eq_of_half fun b => by rw [h.half_seed, hget, hf]⟩

/-- An array is a seed if it has no more items than there are halves. -/
theorem seed_array_ok_iff (hx : ∀ v ∈ x, v.IsWritten) :
    (Value.array x).seed = .ok s ↔ x.length ≤ 2 ∧ Gives x s := by
  obtain ⟨p, c⟩ := s
  rw [gives_iff]
  -- None, one, two or more items.
  rcases x with _ | ⟨v, _ | ⟨w, _ | ⟨u, x⟩⟩⟩
  · simp [Value.seed, Seed.standard, eq_comm]
  · have hv : v.IsWritten := hx v (by simp)
    rw [Value.seed, Toml.map_ok_iff]
    simp [hv.amount_ok_iff, eq_comm]
  · have hv : v.IsWritten := hx v (by simp)
    have hw : w.IsWritten := hx w (by simp)
    have hseed : (Value.array [v, w]).seed =
        v.amount.bind fun p => w.amount.bind fun c => .ok ⟨p, c⟩ := rfl
    rw [hseed, Toml.bind_ok_iff]
    simp [Toml.bind_ok_iff, hv.amount_ok_iff, hw.amount_ok_iff]
  · have hseed : (Value.array (v :: w :: u :: x)).seed =
        v.amount.bind fun _ => w.amount.bind fun _ => .error .malformed := rfl
    rw [hseed, Toml.bind_ok_iff]
    simp [Toml.bind_ok_iff]

/-! ## Texts -/

/-- A seed is read from a text of a value as it is read from the value. -/
theorem ofJson_of_isReadFrom (h : v.IsReadFrom text) : Seed.ofJson text = v.seed := by
  simp only [Seed.ofJson, Value.read_of_isReadFrom h, if_true]
  rcases v.seed with f | s
  · rfl
  · rfl

/-- The items of an array that was read are written in its text. -/
theorem isWritten_of_array (h : (Value.array x).IsReadFrom text) : ∀ v ∈ x, v.IsWritten := by
  obtain ⟨u, t, w, -, ht, -⟩ := h
  exact ht.of_array

/-- The values of an object that was read are written in its text. -/
theorem isWritten_of_object (h : (Value.object ms).IsReadFrom text) :
    ∀ m ∈ ms, m.2.IsWritten := by
  obtain ⟨u, t, w, -, ht, -⟩ := h
  exact ht.of_object

/-- Of the values, each stands under the name of its half, and no other value does. -/
theorem Holds.valuesUnder_key (h : Holds ms x) (hx : x.length ≤ 2) (b : Half) :
    valuesUnder b.key ms = x[b.place]?.toList := by
  obtain ⟨others, hperm, hothers⟩ := h
  have hnamed : valuesUnder b.key (named x) = x[b.place]?.toList := by
    rcases x with _ | ⟨v, _ | ⟨w, _ | ⟨u, x⟩⟩⟩
    · rfl
    · cases b <;> rfl
    · cases b <;> rfl
    · simp at hx
  have hother : valuesUnder b.key others = [] := by
    refine valuesUnder_eq_nil fun m hm hk => ?_
    obtain ⟨k, hk', hprevious, hcurrent⟩ := hothers m hm
    rw [hk, Option.some.injEq] at hk'
    cases b
    · exact hprevious hk'.symm
    · exact hcurrent hk'.symm
  -- Members in another order have the same values under a name, perhaps in another order.
  have hvalues : (valuesUnder b.key ms).Perm (valuesUnder b.key (named x ++ others)) :=
    (hperm.filter _).map _
  rw [valuesUnder_append, hnamed, hother, List.append_nil] at hvalues
  -- Up to one value there is nothing to be reordered.
  cases hv : x[b.place]? with
  | none => simpa [hv] using hvalues
  | some v => simpa [hv] using hvalues

/-- The members have names, all of them. -/
theorem Holds.name_ne_none (h : Holds ms x) : ∀ m ∈ ms, m.1 ≠ none := by
  obtain ⟨others, hperm, hothers⟩ := h
  intro m hm
  rcases List.mem_append.1 (hperm.mem_iff.1 hm) with hm | hm
  · have hname := (List.of_mem_zip hm).1
    rintro hnone
    simp [hnone] at hname
  · obtain ⟨k, hk, -⟩ := hothers m hm
    simp [hk]

theorem exists_error_of_ne_ok {ε α : Type} {y : Except ε α} (h : ∀ a, y ≠ .ok a) :
    ∃ e, y = .error e := by
  rcases y with e | a
  · exact ⟨e, rfl⟩
  · exact absurd rfl (h a)

end OpeningTerms.Json

namespace OpeningTerms.Seed

open Json

/-- Values in an array and the same values under the names of the halves in an object are the same
    seed, or neither is a seed: up to two of them are one if they are natural numbers of 64 bits,
    and the halves that are missing are those of the standard seed. More than two items in an array
    are no seed, and neither is an object that gives a half twice. A natural number of 64 bits is
    written as its digits in base ten, and nothing else is one. -/
theorem ofJson_forms {x : List Value} {ms : List (Option String × Value)} {a o : String}
    (ha : (Value.array x).IsReadFrom a) (ho : (Value.object ms).IsReadFrom o) :
    (x.length ≤ 2 → Holds ms x →
      (∃ s, ofJson a = .ok s ∧ ofJson o = .ok s ∧ Gives x s) ∨
        (∃ f, ofJson a = .error f) ∧ (∃ f, ofJson o = .error f) ∧ ∀ s, ¬Gives x s) ∧
      (2 < x.length → ∃ f, ofJson a = .error f) ∧
      (∀ k, k = "previous" ∨ k = "current" → 2 ≤ (ms.map Prod.fst).count (some k) →
        ∃ f, ofJson o = .error f) ∧
      ∀ (n : UInt64) t, Spells t (amountValue n) ↔ t = Nat.toDigits 10 n.toNat := by
  have harray (s : Seed) := seed_array_ok_iff (s := s) (isWritten_of_array ha)
  have hobject (s : Seed) := seed_object_ok_iff (s := s) (isWritten_of_object ho)
  rw [ofJson_of_isReadFrom ha, ofJson_of_isReadFrom ho]
  refine ⟨fun hx hholds => ?_, fun hx => ?_, fun k hk htwice => ?_,
    fun n t => spells_amountValue_iff⟩
  · have hobject (s : Seed) : (Value.object ms).seed = .ok s ↔ Gives x s := by
      rw [hobject, gives_iff_isHalf, and_iff_right hholds.name_ne_none]
      simp only [hholds.valuesUnder_key hx]
    by_cases hgives : ∃ s, Gives x s
    · obtain ⟨s, hs⟩ := hgives
      exact .inl ⟨s, (harray s).2 ⟨hx, hs⟩, (hobject s).2 hs, hs⟩
    · rw [not_exists] at hgives
      exact .inr ⟨exists_error_of_ne_ok fun s hs => hgives s ((harray s).1 hs).2,
        exists_error_of_ne_ok fun s hs => hgives s ((hobject s).1 hs), hgives⟩
  · exact exists_error_of_ne_ok fun s hs => absurd ((harray s).1 hs).1 (by omega)
  · have hkey : ∃ b : Half, b.key = k := by
      rcases hk with rfl | rfl
      · exact ⟨.previous, rfl⟩
      · exact ⟨.current, rfl⟩
    obtain ⟨b, rfl⟩ := hkey
    refine exists_error_of_ne_ok fun s hs => ?_
    rw [← length_valuesUnder] at htwice
    rcases ((hobject s).1 hs).2 b with hvalues | ⟨hvalues, -⟩
    · rw [hvalues] at htwice
      simp at htwice
    · rw [hvalues] at htwice
      simp at htwice

/-- A member with nothing to say, with white space in front of its key and of its value. -/
def idleMember : Member := ⟨[' '], ['x'], [.char 'x'], [], ⟨[' '], ['n', 'u', 'l', 'l'], [], .null⟩⟩

/-- A seed in an array, and in an object whose halves change places around another member; an array
    with a third number; and an object with a half that it gives twice. -/
theorem ofJson_seven_nine :
    (∃ s, ofJson "[7, 9]" = .ok s ∧
      ofJson "\x7b\"current\":9, \"x\": null,\"previous\":7\x7d" = .ok s ∧
      Gives [amountValue 7, amountValue 9] s) ∧
      (∃ f, ofJson "[7, 9, 9]" = .error f) ∧
      ∃ f, ofJson "\x7b\"previous\":7,\"previous\":7\x7d" = .error f := by
  have hspace : IsSpaces [' '] := by simp [IsSpaces, isSpace]
  have hseven : (amountItem [] 7).IsSpaced := isSpaced_amountItem isSpaces_nil 7
  have hnine : (amountItem [' '] 9).IsSpaced := isSpaced_amountItem hspace 9
  have hplain : ∀ k ∈ ["previous", "current"], IsPlainText k := by
    unfold IsPlainText
    decide +kernel
  have ha : (Value.array [amountValue 7, amountValue 9]).IsReadFrom "[7, 9]" :=
    ⟨[], _, [], isSpaces_nil, .array [amountItem [] 7, amountItem [' '] 9] (by simp)
      (by simp [hseven, hnine]) (by simp [spells_amountItem]), isSpaces_nil, by decide +kernel⟩
  have ha' : (Value.array [amountValue 7, amountValue 9, amountValue 9]).IsReadFrom "[7, 9, 9]" :=
    ⟨[], _, [], isSpaces_nil,
      .array [amountItem [] 7, amountItem [' '] 9, amountItem [' '] 9] (by simp)
      (by simp [hseven, hnine]) (by simp [spells_amountItem]), isSpaces_nil, by decide +kernel⟩
  have ho : (Value.object ([fieldSpelling ("current", 9), idleMember,
      fieldSpelling ("previous", 7)].map Member.member)).IsReadFrom
      "\x7b\"current\":9, \"x\": null,\"previous\":7\x7d" := by
    have hidle : idleMember.IsProper :=
      ⟨hspace, .char (by decide) .nil, isSpaces_nil, hspace, isSpaces_nil⟩
    refine ⟨[], _, [], isSpaces_nil, .object _ (by simp) ?_ ?_, isSpaces_nil, by decide +kernel⟩
    · have hproper (k : String) (n : UInt64) (hk : k ∈ ["previous", "current"]) :
          (fieldSpelling (k, n)).IsProper := isProper_fieldSpelling (hplain k hk)
      simp [hidle, hproper]
    · simp [fieldSpelling, spells_amountItem, idleMember, Spells.null]
  have ho' := isReadFrom_objectText [("previous", 7), ("previous", 7)] (by simp [hplain])
  have hholds : Holds ([fieldSpelling ("current", 9), idleMember,
      fieldSpelling ("previous", 7)].map Member.member) [amountValue 7, amountValue 9] := by
    simp only [List.map_cons, List.map_nil, member_fieldSpelling, fieldMember]
    refine ⟨[idleMember.member], ?_, by simpa using ⟨"x", rfl, by decide, by decide⟩⟩
    exact (List.reverse_perm _).symm.trans ((List.Perm.swap _ _ _).cons _)
  have hgives : Gives [amountValue 7, amountValue 9] ⟨7, 9⟩ := ⟨.inl rfl, .inl rfl⟩
  obtain ⟨hagree, -, -⟩ := ofJson_forms ha ho
  obtain ⟨-, hlong, -⟩ := ofJson_forms ha' ho
  obtain ⟨-, -, htwice, -⟩ := ofJson_forms ha ho'
  refine ⟨?_, hlong (by decide), htwice "previous" (.inl rfl) (by decide)⟩
  exact (hagree (by decide) hholds).resolve_right fun h => h.2.2 _ hgives

end OpeningTerms.Seed
