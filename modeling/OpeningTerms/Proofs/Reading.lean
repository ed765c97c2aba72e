import OpeningTerms.Proofs.Spelling

/-!
# What is read from a JSON text

Whatever the readers of JSON take from the front of a text is a text of what they make of it, by
the rules of `Spells`. An escape takes several characters of a string at once, so the parts of a
string are found by induction on its length (`exists_parts`). The readers of values, of items and of
members call each other with a step less, and are dealt with together: what each of them takes
(`ReadsTexts`, `ReadsItems`, `ReadsMembers`) follows from what the others take with fewer steps
(`reads_texts`). Items and members are lists of pieces alike (`IsListed`).

* `Value.read_eq_iff`: a text as a whole is read as a value exactly if the rules make it a text of
  this value. So no text of JSON is left out by the rules, and none is misread.
-/

namespace OpeningTerms.Json

open OpeningTerms.Text

variable {c : Char} {s t r rest : List Char} {n : ℕ} {ps : List Part} {v : Value} {fuel : ℕ}
  {isFirst : Bool}

/-! ## Strings -/

theorem exists_hex_succ {left k : ℕ} {x : List Part × List Char}
    (h : stringBody (.hex (left + 1) k) s = some x) :
    ∃ c r d, s = c :: r ∧ hexValue? c = some d ∧
      stringBody (.hex left (16 * k + d)) r = some x := by
  rcases s with _ | ⟨c, r⟩
  · simp [stringBody] at h
  · cases hd : hexValue? c with
    | none => simp [stringBody, hd] at h
    | some d =>
      simp only [stringBody, hd] at h
      exact ⟨c, r, d, rfl, hd, h⟩

theorem exists_hex_zero {k : ℕ} (h : stringBody (.hex 0 k) s = some (ps, rest)) :
    ∃ c r d ps', s = c :: r ∧ hexValue? c = some d ∧ stringBody .closed r = some (ps', rest) ∧
      ps = .unit (16 * k + d) :: ps' := by
  rcases s with _ | ⟨c, r⟩
  · simp [stringBody] at h
  · cases hd : hexValue? c with
    | none => simp [stringBody, hd] at h
    | some d =>
      simp only [stringBody, hd] at h
      obtain ⟨⟨ps', rest'⟩, hr, hx⟩ := Option.map_eq_some_iff.1 h
      cases hx
      exact ⟨c, r, d, ps', rfl, hd, hr, rfl⟩

/-- After the letter of a long escape stand its four digits. -/
theorem exists_unit (h : stringBody (.hex 3 0) s = some (ps, rest)) :
    ∃ u n r ps', IsUnit u n ∧ s = u ++ r ∧ stringBody .closed r = some (ps', rest) ∧
      ps = .unit n :: ps' := by
  obtain ⟨c₁, r₁, d₁, rfl, h₁, hr₁⟩ := exists_hex_succ h
  obtain ⟨c₂, r₂, d₂, rfl, h₂, hr₂⟩ := exists_hex_succ hr₁
  obtain ⟨c₃, r₃, d₃, rfl, h₃, hr₃⟩ := exists_hex_succ hr₂
  obtain ⟨c₄, r₄, d₄, ps', rfl, h₄, hr₄, hps⟩ := exists_hex_zero hr₃
  rw [Nat.mul_zero, Nat.zero_add] at hps
  exact ⟨_, _, r₄, ps', .intro h₁ h₂ h₃ h₄, rfl, hr₄, hps⟩

/-- What is read as the rest of a string are its parts and the closing quote. -/
theorem exists_parts (h : stringBody .closed s = some (ps, rest)) :
    ∃ t, SpellsParts t ps ∧ s = t ++ '"' :: rest := by
  -- An escape takes several characters, so the induction is on the length.
  induction hlength : s.length using Nat.strong_induction_on generalizing s ps with
  | _ k ih =>
  subst hlength
  rcases s with _ | ⟨c, r⟩
  · simp [stringBody] at h
  simp only [stringBody] at h
  split_ifs at h with hquote hescape hcontrol
  · cases h
    exact ⟨[], .nil, by rw [hquote, List.nil_append]⟩
  · subst hescape
    rcases r with _ | ⟨d, r⟩
    · simp [stringBody] at h
    simp only [stringBody] at h
    split_ifs at h with hu
    · subst hu
      obtain ⟨u, n, r', ps', hunit, rfl, hr, rfl⟩ := exists_unit h
      have hlength : r'.length < ('\\' :: 'u' :: (u ++ r')).length := by
        simp only [List.length_cons, List.length_append]
        omega
      obtain ⟨t, ht, rfl⟩ := ih _ hlength hr rfl
      exact ⟨_, .unit hunit ht, by rw [List.cons_append, List.cons_append, List.append_assoc]⟩
    · obtain ⟨e, he, h⟩ := Option.bind_eq_some_iff.1 h
      obtain ⟨⟨ps', rest'⟩, hr, hx⟩ := Option.map_eq_some_iff.1 h
      cases hx
      have hlength : r.length < ('\\' :: d :: r).length := by
        simp only [List.length_cons]
        omega
      obtain ⟨t, ht, rfl⟩ := ih _ hlength hr rfl
      exact ⟨_, .escape he ht, rfl⟩
  · obtain ⟨⟨ps', rest'⟩, hr, hx⟩ := Option.map_eq_some_iff.1 h
    cases hx
    obtain ⟨t, ht, rfl⟩ := ih r.length (Nat.lt_succ_self _) hr rfl
    exact ⟨_, .char ⟨hquote, hescape, not_lt.1 hcontrol⟩ ht, rfl⟩

/-! ## Words and numbers -/

theorem eq_append_of_afterWord {w : List Char} (h : afterWord w s = some r) : s = w ++ r := by
  rw [afterWord] at h
  split_ifs at h with hw
  cases h
  obtain ⟨r, rfl⟩ := List.isPrefixOf_iff_prefix.1 hw
  rw [List.drop_left]

/-- A value without brackets was read from a text of its own, up to the rest. -/
theorem exists_plain (h : plainValue s = (v, some rest)) (hrest : Ends rest) :
    ∃ t, Spells t v ∧ s = t ++ rest := by
  rw [plainValue] at h
  split at h
  · cases h
    exact ⟨_, .null, eq_append_of_afterWord ‹_›⟩
  split at h
  · cases h
    exact ⟨_, .true, eq_append_of_afterWord ‹_›⟩
  split at h
  · cases h
    exact ⟨_, .false, eq_append_of_afterWord ‹_›⟩
  split at h
  · rename_i hnumber
    cases h
    obtain ⟨t, ht, rfl⟩ := exists_numeral hnumber
    exact ⟨t, .number ht ((number?_append_iff ht hrest).1 hnumber), rfl⟩
  · cases h

/-! ## Items and members -/

/-- With this many steps, what is read as a value is a text of it behind white space. -/
def ReadsTexts (fuel : ℕ) : Prop :=
  ∀ s v rest, value fuel s = (v, some rest) → Ends rest →
    ∃ w t, IsSpaces w ∧ Spells t v ∧ s = w ++ (t ++ rest)

/-- An item, with the character behind it. -/
theorem exists_item (hfuel : ReadsTexts fuel) (hv : value fuel s = (v, some r))
    (hr : skipSpace r = c :: rest) (hc : EndsNumber c) :
    ∃ i : Item, (i.IsSpaced ∧ Spells i.text i.value) ∧ i.value = v ∧ s = i.padded ++ c :: rest := by
  obtain ⟨w', hw', hr'⟩ := exists_spaces r
  rw [hr] at hr'
  obtain ⟨w, t, hw, ht, rfl⟩ := hfuel s v r hv (hr' ▸ ends_append hw' (ends_cons hc))
  refine ⟨⟨w, t, w', v⟩, ⟨⟨hw, hw'⟩, ht⟩, rfl, ?_⟩
  rw [hr', Item.padded, List.append_assoc, List.append_assoc]

/-- A member, with the character behind it. -/
theorem exists_member {r₁ r₂ r₃ : List Char} (hfuel : ReadsTexts fuel)
    (hs : skipSpace s = '"' :: r) (hr : stringBody .closed r = some (ps, r₁))
    (hr₁ : skipSpace r₁ = ':' :: r₂) (hv : value fuel r₂ = (v, some r₃))
    (hr₃ : skipSpace r₃ = c :: rest) (hc : EndsNumber c) :
    ∃ m : Member, (m.IsProper ∧ Spells m.item.text m.item.value) ∧ m.member = (textOf ps, v) ∧
      s = m.padded ++ c :: rest := by
  obtain ⟨w, hw, hs'⟩ := exists_spaces s
  obtain ⟨key, hkey, rfl⟩ := exists_parts hr
  obtain ⟨w₁, hw₁, hr₁'⟩ := exists_spaces r₁
  obtain ⟨i, ⟨hi, htext⟩, rfl, rfl⟩ := exists_item hfuel hv hr₃ hc
  refine ⟨⟨w, key, ps, w₁, i⟩, ⟨⟨hw, hkey, hw₁, hi⟩, htext⟩, rfl, ?_⟩
  rw [hs', hs, hr₁', hr₁]
  simp only [Member.padded, List.append_assoc, List.cons_append]

/-! ## Lists of items and of members -/

section

variable {α β : Type} {close : Char} {padded : α → List Char} {good : α → Prop} {result : α → β}
  {a : α} {bs : List β}

variable (close padded good result) in
/-- A text up to the closing bracket, and what is read of it: there are no pieces, which is only
    possible at the beginning, or there are good ones. -/
inductive IsListed : (isFirst : Bool) → List Char → List β → List Char → Prop
  | none {w rest : List Char} (hw : IsSpaces w) : IsListed true (w ++ close :: rest) [] rest
  | some {isFirst : Bool} {rest : List Char} (as : List α) (hne : as ≠ [])
      (has : ∀ a ∈ as, good a) :
      IsListed isFirst (enclosed close (as.map padded) ++ rest) (as.map result) rest

theorem IsListed.one (ha : good a) :
    IsListed close padded good result isFirst (padded a ++ close :: rest) [result a] rest := by
  have h : IsListed close padded good result isFirst (enclosed close ([a].map padded) ++ rest)
      ([a].map result) rest := .some [a] (by simp) (by simpa using ha)
  simpa [enclosed_singleton] using h

theorem IsListed.more (ha : good a) (h : IsListed close padded good result false s bs rest) :
    IsListed close padded good result isFirst (padded a ++ ',' :: s) (result a :: bs) rest := by
  cases h with
  | some as hne has =>
    have h : IsListed close padded good result isFirst
        (enclosed close ((a :: as).map padded) ++ rest) ((a :: as).map result) rest :=
      .some (a :: as) (by simp) (List.forall_mem_cons.2 ⟨ha, has⟩)
    obtain ⟨b, bs, rfl⟩ := List.exists_cons_of_ne_nil hne
    simpa [enclosed_cons_cons] using h

end

/-- With this many steps, what is read as the items of an array are texts of them. -/
def ReadsItems (fuel : ℕ) : Prop :=
  ∀ isFirst s vs rest, items fuel isFirst s = (vs, some rest) →
    IsListed ']' Item.padded (fun i => i.IsSpaced ∧ Spells i.text i.value) Item.value
      isFirst s vs rest

/-- With this many steps, what is read as the members of an object are texts of them. -/
def ReadsMembers (fuel : ℕ) : Prop :=
  ∀ isFirst s ms rest, members fuel isFirst s = (ms, some rest) →
    IsListed '\x7d' Member.padded (fun m => m.IsProper ∧ Spells m.item.text m.item.value)
      Member.member isFirst s ms rest

/-- With one step more, items are read from texts if values are with one less. -/
theorem readsItems_succ (hvalue : ReadsTexts fuel) (hitems : ReadsItems fuel) :
    ReadsItems (fuel + 1) := by
  intro isFirst s vs rest h
  rw [items.eq_def] at h
  simp only at h
  split at h
  · rename_i r hr
    cases h
    obtain ⟨w, hw, hs⟩ := exists_spaces s
    rw [hs, hr]
    exact .none hw
  · rw [value_skipSpace] at h
    split at h
    · cases h
    rename_i v r hv
    split at h
    · rename_i r' hr
      cases h
      obtain ⟨i, hi, rfl, rfl⟩ := exists_item hvalue hv hr endsNumber_bracket
      exact .one hi
    · rename_i r' hr
      obtain ⟨i, hi, rfl, rfl⟩ := exists_item hvalue hv hr endsNumber_comma
      rcases hrest : items fuel false r' with ⟨vs', rest'⟩
      rw [hrest] at h
      cases h
      exact .more hi (hitems _ _ _ _ hrest)
    · cases h

/-- With one step more, members are read from texts if values are with one less. -/
theorem readsMembers_succ (hvalue : ReadsTexts fuel) (hmembers : ReadsMembers fuel) :
    ReadsMembers (fuel + 1) := by
  intro isFirst s ms rest h
  rw [members.eq_def] at h
  simp only at h
  split at h
  · rename_i r hr
    cases h
    obtain ⟨w, hw, hs⟩ := exists_spaces s
    rw [hs, hr]
    exact .none hw
  · rename_i r hs
    split at h
    · cases h
    rename_i ps r₁ hr
    split at h
    · rename_i r₂ hr₁
      split at h
      · cases h
      rename_i v r₃ hv
      split at h
      · rename_i r₄ hr₃
        cases h
        obtain ⟨m, hm, hmember, rfl⟩ :=
          exists_member hvalue hs hr hr₁ hv hr₃ endsNumber_brace
        rw [← hmember]
        exact .one hm
      · rename_i r₄ hr₃
        obtain ⟨m, hm, hmember, rfl⟩ :=
          exists_member hvalue hs hr hr₁ hv hr₃ endsNumber_comma
        rcases hrest : members fuel false r₄ with ⟨ms', rest'⟩
        rw [hrest] at h
        cases h
        rw [← hmember]
        exact .more hm (hmembers _ _ _ _ hrest)
      · cases h
    · cases h
  · cases h

/-! ## Values -/

/-- With one step more, values are read from texts if items and members are with one less. -/
theorem readsTexts_succ (hitems : ReadsItems fuel) (hmembers : ReadsMembers fuel) :
    ReadsTexts (fuel + 1) := by
  intro s v rest h hrest
  obtain ⟨w, hw, hs⟩ := exists_spaces s
  rw [value.eq_def] at h
  simp only at h
  split at h
  · rename_i r hr
    rcases hread : items fuel true r with ⟨vs, rest'⟩
    rw [hread] at h
    cases h
    rw [hs, hr]
    cases hitems _ _ _ _ hread with
    | none hw' => exact ⟨w, _, hw, .emptyArray hw', by simp⟩
    | some is hne his =>
      exact ⟨w, _, hw, .array is hne (fun i hi => (his i hi).1) (fun i hi => (his i hi).2), rfl⟩
  · rename_i r hr
    rcases hread : members fuel true r with ⟨ms, rest'⟩
    rw [hread] at h
    cases h
    rw [hs, hr]
    cases hmembers _ _ _ _ hread with
    | none hw' => exact ⟨w, _, hw, .emptyObject hw', by simp⟩
    | some ms hne hms =>
      exact ⟨w, _, hw, .object ms hne (fun m hm => (hms m hm).1) (fun m hm => (hms m hm).2), rfl⟩
  · rename_i r hr
    split at h
    · rename_i ps r' hbody
      cases h
      obtain ⟨t, ht, rfl⟩ := exists_parts hbody
      exact ⟨w, _, hw, .text ht, by rw [hs, hr, List.cons_append, List.append_assoc]; rfl⟩
    · cases h
  · obtain ⟨t, ht, hr⟩ := exists_plain h hrest
    exact ⟨w, t, hw, ht, by rw [← hr]; exact hs⟩

/-- One induction for the three readers, each of which calls the others with a step less. -/
theorem reads_texts (fuel : ℕ) : ReadsTexts fuel ∧ ReadsItems fuel ∧ ReadsMembers fuel := by
  induction fuel with
  | zero =>
    refine ⟨fun s v rest h => ?_, fun isFirst s vs rest h => ?_, fun isFirst s ms rest h => ?_⟩
    · rw [value] at h
      cases h
    · rw [items] at h
      cases h
    · rw [members] at h
      cases h
  | succ fuel ih =>
    obtain ⟨hvalue, hitems, hmembers⟩ := ih
    exact ⟨readsTexts_succ hitems hmembers, readsItems_succ hvalue hitems,
      readsMembers_succ hvalue hmembers⟩

/-- A text as a whole is read as a value exactly if it is a text that the value can be read from. -/
theorem Value.read_eq_iff {text : String} : Value.read text = (v, true) ↔ v.IsReadFrom text := by
  refine ⟨fun h => ?_, Value.read_of_isReadFrom⟩
  simp only [Value.read] at h
  split at h
  · rename_i v' r hread
    rw [Prod.mk.injEq, decide_eq_true_eq] at h
    obtain ⟨rfl, hr⟩ := h
    obtain ⟨w', hw', hr'⟩ := exists_spaces r
    rw [hr, List.append_nil] at hr'
    subst hr'
    have hends : Ends r := by
      rw [← List.append_nil r]
      exact ends_append hw' ends_nil
    obtain ⟨w, t, hw, ht, htext⟩ := (reads_texts _).1 _ _ _ hread hends
    exact ⟨w, t, r, hw, ht, hw', htext⟩
  · cases h

end OpeningTerms.Json
