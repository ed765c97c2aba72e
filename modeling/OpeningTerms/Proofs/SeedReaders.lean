import OpeningTerms.Proofs.Acceptance

/-!
# Two readers of a seed

A seed is read from a table of its own (`Document.seed`), or from the section on the sequence
among other things (`Document.sequenceSettings`). The first reader goes through the entries once
and takes the halves as they come; the second keeps all values until the end, the number of terms
excepted, and then looks the halves up. Both come to the same look-ups (`seed_table_ok_iff`), so
that the second reads what the first does and the number of terms besides
(`sequenceSettings_ok_iff`).

* `sequenceSettings_seed_agree`: what the section gives is the seed of its table; a table without
  a number of terms that has a seed is such a section too, unless it has an integer of more than 64
  bits where the first reader does not look.
-/

namespace OpeningTerms.Toml

variable {d : Document} {es : List (String × Document)} {s : Seed}

/-! ## The halves of a seed -/

theorem exists_seedEntry_iff (s : Seed) (e : String × Document) :
    (∃ s', seedEntry s e = .ok s') ↔
      (e.1 = "previous" → e.2.IsAmount) ∧
        (e.1 ≠ "previous" → (e.1 = "current" → e.2.IsAmount) ∧
          (e.1 ≠ "current" → e.2.Everywhere Document.InRange)) := by
  rw [seedEntry, exists_ite_ok_iff, exists_ite_ok_iff, exists_map_ok_iff, exists_unit_ok_iff,
    exists_amount_iff, ignore_eq_ok_iff]

theorem seedEntry_previous (s : Seed) (d : Document) (s' : Seed)
    (h : seedEntry s ("previous", d) = .ok s') : d = .integer s'.previous.toNat := by
  obtain ⟨v, hv, rfl⟩ := map_ok_iff.1 h
  exact amount_ok_iff.1 hv

theorem seedEntry_current (s : Seed) (d : Document) (s' : Seed)
    (h : seedEntry s ("current", d) = .ok s') : d = .integer s'.current.toNat := by
  obtain ⟨v, hv, rfl⟩ := map_ok_iff.1 h
  exact amount_ok_iff.1 hv

/-- An entry changes the half that its key names. -/
theorem seedEntry_other (s : Seed) (e : String × Document) (s' : Seed)
    (h : seedEntry s e = .ok s') :
    (e.1 ≠ "previous" → s'.previous = s.previous) ∧ (e.1 ≠ "current" → s'.current = s.current) := by
  rw [seedEntry] at h
  split_ifs at h with hprevious hcurrent
  · obtain ⟨v, -, rfl⟩ := map_ok_iff.1 h
    exact ⟨fun hk => absurd hprevious hk, fun _ => rfl⟩
  · obtain ⟨v, -, rfl⟩ := map_ok_iff.1 h
    exact ⟨fun _ => rfl, fun hk => absurd hcurrent hk⟩
  · obtain ⟨_, -, rfl⟩ := map_ok_iff.1 h
    exact ⟨fun _ => rfl, fun _ => rfl⟩

/-- The halves that are taken as they come are those that a look-up finds. -/
theorem keptHalf_of_seed (hes : (es.map Prod.fst).Nodup) (h : (Document.table es).seed = .ok s) :
    keptHalf "current" Seed.standard.current es = .ok s.current ∧
      keptHalf "previous" Seed.standard.previous es = .ok s.previous := by
  rw [keptHalf_ok_iff, keptHalf_ok_iff]
  exact ⟨foldlM_field "current" (·.current) (fun d v => d = .integer v.toNat) seedEntry_current
      (fun s e s' hk h => (seedEntry_other s e s' h).2 hk) hes h,
    foldlM_field "previous" (·.previous) (fun d v => d = .integer v.toNat) seedEntry_previous
      (fun s e s' hk h => (seedEntry_other s e s' h).1 hk) hes h⟩

/-- A table is read as a seed by looking its halves up, if the numbers elsewhere are in range. -/
theorem seed_table_ok_iff (hes : (es.map Prod.fst).Nodup) :
    (Document.table es).seed = .ok s ↔
      keptHalf "current" Seed.standard.current es = .ok s.current ∧
        keptHalf "previous" Seed.standard.previous es = .ok s.previous ∧
        ∀ e ∈ es, e.1 ≠ "previous" → e.1 ≠ "current" → e.2.Everywhere Document.InRange := by
  constructor
  · intro h
    obtain ⟨hc, hp⟩ := keptHalf_of_seed hes h
    have hentries := (exists_foldlM_iff exists_seedEntry_iff es _).1 ⟨s, h⟩
    exact ⟨hc, hp, fun e he hprevious hcurrent => ((hentries e he).2 hprevious).2 hcurrent⟩
  · rintro ⟨hc, hp, hrange⟩
    have hcurrent := (forall_lookup_iff hes).1 ((exists_keptHalf_iff _ _).1 ⟨_, hc⟩)
    have hprevious := (forall_lookup_iff hes).1 ((exists_keptHalf_iff _ _).1 ⟨_, hp⟩)
    obtain ⟨s', h⟩ := (exists_foldlM_iff exists_seedEntry_iff es .standard).2 fun e he =>
      ⟨hprevious e he, fun hk => ⟨hcurrent e he, hrange e he hk⟩⟩
    -- Some seed is read; its halves are those looked up.
    obtain ⟨hc', hp'⟩ := keptHalf_of_seed hes h
    rw [hc, Except.ok.injEq] at hc'
    rw [hp, Except.ok.injEq] at hp'
    rcases s with ⟨p, c⟩
    rcases s' with ⟨p', c'⟩
    simp only at hc' hp'
    rw [hc', hp']
    exact h

/-! ## The section on the sequence -/

/-- The section on the sequence gives the seed of its table, and the number of terms. -/
theorem sequenceSettings_ok_iff (hes : (es.map Prod.fst).Nodup) {q : SequenceSettings} :
    (Document.table es).sequenceSettings = .ok q ↔
      es.foldlM termsEntry none = .ok q.terms ∧ (Document.table es).seed = .ok q.seed := by
  rw [sequenceSettings_table_ok_iff, seed_table_ok_iff hes]
  constructor
  · rintro ⟨ht, hc, hp⟩
    refine ⟨ht, hc, hp, fun e he _ _ => ?_⟩
    -- What can be kept is in range, and so is the number of terms.
    obtain ⟨hamount, hkept⟩ := (exists_foldlM_iff exists_termsEntry_iff es none).1 ⟨_, ht⟩ e he
    by_cases hk : e.1 = "terms"
    · exact (Document.everywhere_isShort_iff.1 (hamount hk).everywhere_isShort).1
    · exact (Document.everywhere_isShort_iff.1 (hkept hk)).1
  · rintro ⟨ht, hc, hp, -⟩
    exact ⟨ht, hc, hp⟩

/-- Where no number of terms is given, there is nothing to be read but values to be kept. -/
theorem foldlM_termsEntry_ok_iff (hes : (es.map Prod.fst).Nodup) (hterms : es.lookup "terms" = none)
    {t : Option UInt64} :
    es.foldlM termsEntry none = .ok t ↔
      t = none ∧ ∀ e ∈ es, e.2.Everywhere Document.IsShort := by
  have hkey (e : String × Document) (he : e ∈ es) : e.1 ≠ "terms" := by
    rintro hk
    rw [List.lookup_eq_none_iff] at hterms
    exact bne_iff_ne.1 (hterms e he) hk.symm
  have hfield {t : Option UInt64} (h : es.foldlM termsEntry none = .ok t) : t = none :=
    (foldlM_field "terms" id (fun _ _ => True) (fun _ _ _ _ => trivial) termsEntry_other hes
      h).1 hterms
  constructor
  · intro h
    have hentries := (exists_foldlM_iff exists_termsEntry_iff es none).1 ⟨t, h⟩
    exact ⟨hfield h, fun e he => (hentries e he).2 (hkey e he)⟩
  · rintro ⟨rfl, h⟩
    obtain ⟨t, ht⟩ := (exists_foldlM_iff exists_termsEntry_iff es none).2 fun e he =>
      ⟨fun hk => absurd hk (hkey e he), fun _ => h e he⟩
    rw [ht, hfield ht]

/-- A table with a seed can be kept as a whole if all integers in it that are no halves of the
    seed have at most 64 bits. -/
theorem everywhere_isShort_of_seed (hes : (es.map Prod.fst).Nodup)
    (h : (Document.table es).seed = .ok s) :
    (∀ e ∈ es, e.2.Everywhere Document.IsShort) ↔
      ∀ k path n, k ≠ "previous" → k ≠ "current" →
        (Document.table es).At (.key k :: path) (.integer n) → -2 ^ 63 ≤ n ∧ n < 2 ^ 64 := by
  constructor
  · intro hshort k path n _ _ hn
    obtain ⟨_, c, ⟨⟩, hc, hn⟩ := Document.at_key_iff.1 hn
    exact isShort_iff.1 ((Document.everywhere_isShort_iff.1 (hshort _ hc)).2 path n hn)
  · intro hshort e he
    obtain ⟨hc, hp, hrange⟩ := (seed_table_ok_iff hes).1 h
    by_cases hprevious : e.1 = "previous"
    · exact ((forall_lookup_iff hes).1 ((exists_keptHalf_iff _ _).1 ⟨_, hp⟩) e he
        hprevious).everywhere_isShort
    · by_cases hcurrent : e.1 = "current"
      · exact ((forall_lookup_iff hes).1 ((exists_keptHalf_iff _ _).1 ⟨_, hc⟩) e he
          hcurrent).everywhere_isShort
      · exact Document.everywhere_isShort_iff.2 ⟨hrange e he hprevious hcurrent, fun path n hn =>
          isShort_iff.2 (hshort e.1 path n hprevious hcurrent (.key he hn))⟩

/-- What is read as the section on the sequence has the same seed when it is read as a seed. What
    is read as a seed, and gives no number of terms, is read as the section with the same seed if
    all integers outside the halves of the seed have at most 64 bits, and is refused otherwise.
    This goes for all tables with distinct keys, such as those in well-formed documents are
    (`read?_distinct`). -/
theorem sequenceSettings_seed_agree (hd : d.Distinct) :
    (∀ q, d.arranged.sequenceSettings = .ok q → d.arranged.seed = .ok q.seed) ∧
      ∀ s, d.arranged.seed = .ok s → d.get? "terms" = none →
        ((∀ k path n, k ≠ "previous" → k ≠ "current" →
            d.At (.key k :: path) (.integer n) → -2 ^ 63 ≤ n ∧ n < 2 ^ 64) →
          d.arranged.sequenceSettings = .ok ⟨none, s⟩) ∧
        ((∃ k path n, k ≠ "previous" ∧ k ≠ "current" ∧
            d.At (.key k :: path) (.integer n) ∧ ¬(-2 ^ 63 ≤ n ∧ n < 2 ^ 64)) →
          ∃ m, d.arranged.sequenceSettings = .error m) := by
  cases d with
  | table es =>
    have hat (path : List Step) (n : ℤ) :
        (Document.table es).arranged.At path (.integer n) ↔
          (Document.table es).At path (.integer n) := at_arranged_leaf_iff trivial
    simp only [← hat]
    have hnodup := (Document.distinct_table_iff.1 hd).1
    have hes := nodup_sortedEntries.2 hnodup
    rw [arranged_table]
    refine ⟨fun q h => ((sequenceSettings_ok_iff hes).1 h).2, fun s hs hterms => ?_⟩
    have hterms : (sortedEntries es).lookup "terms" = none := by
      rw [lookup_sortedEntries hnodup, show es.lookup "terms" = none from hterms, Option.map_none]
    have hiff {q : SequenceSettings} := sequenceSettings_ok_iff hes (q := q)
    simp only [foldlM_termsEntry_ok_iff hes hterms, everywhere_isShort_of_seed hes hs] at hiff
    refine ⟨fun hshort => hiff.2 ⟨⟨rfl, hshort⟩, hs⟩, ?_⟩
    rintro ⟨k, path, n, hprevious, hcurrent, hn, hwide⟩
    rcases h : (Document.table (sortedEntries es)).sequenceSettings with m | q
    · exact ⟨m, rfl⟩
    · exact absurd ((hiff.1 h).1.2 k path n hprevious hcurrent hn) hwide
  | moment =>
    -- A date stands for the standard seed with either reader.
    rw [Document.arranged]
    refine ⟨fun q h => ?_, fun s h _ => ⟨fun _ => ?_, ?_⟩⟩
    · cases h
      rfl
    · cases h
      rfl
    · rintro ⟨k, path, n, -, -, hn, -⟩
      obtain ⟨_, _, ⟨⟩, _⟩ := Document.at_key_iff.1 hn
  | _ => simp [Document.arranged, Document.sequenceSettings, Document.seed]

/-- An integer of 65 bits, inside what is no half of the seed. -/
theorem sequenceSettings_seed_agree_wide :
    let d : Document := .table [("previous", .integer 7), ("x", .array [.integer (2 ^ 64)])]
    d.Distinct ∧ d.arranged.seed = .ok ⟨7, 1⟩ ∧ d.get? "terms" = none ∧
      ∃ m, d.arranged.sequenceSettings = .error m := by
  intro d
  have hd : d.Distinct := by
    refine Document.distinct_table_iff.2 ⟨by decide, ?_⟩
    simp only [List.forall_mem_cons, Document.distinct_array_iff, List.not_mem_nil, false_implies,
      implies_true, and_true]
    exact ⟨Document.IsLeaf.distinct trivial, Document.IsLeaf.distinct trivial⟩
  have hseed : d.arranged.seed = .ok ⟨7, 1⟩ := by
    rw [arranged_table, sortedEntries, List.mergeSort_of_pairwise (by decide)]
    rfl
  refine ⟨hd, hseed, rfl, ((sequenceSettings_seed_agree hd).2 _ hseed rfl).2 ?_⟩
  refine ⟨"x", [.item 0], 2 ^ 64, by decide, by decide, ?_, by decide⟩
  exact .key (List.mem_cons_of_mem _ List.mem_cons_self) (.item rfl (.here _))

end OpeningTerms.Toml
