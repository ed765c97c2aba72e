import OpeningTerms.Proofs.DistinctKeys
import OpeningTerms.Proofs.Sections
import OpeningTerms.Settings.File

/-!
# The settings that a document gives

Which documents give settings, and which settings they give, is fixed by the values of four keys
and by the ranges of the numbers (`Document.IsSettings`). A document is read section by section
(`exists_settingsEntry_iff`), from a tree with the keys of every table in ascending order; this tree
gives the same settings as the document itself (`isSettings_arranged`).

* `loadFrom_gives`: the documents that are accepted, and the number of terms, the seed and the
  filter that they give. Nothing else in them has a say in these.
-/

namespace OpeningTerms.Toml

/-! ## What a document says -/

namespace Document

/-- A document with settings. -/
structure IsSettings (d : Document) : Prop where
  /-- Every number is in some range, except behind the first item of an array for the log. -/
  inRange : ∀ path kind, d.At path (.overflow kind) →
    ∃ i rest, path = .key "log" :: .item (i + 1) :: rest
  log : ∀ x, d.get? "log" = some x → x.IsLogSection
  sequence : ∀ x, d.get? "sequence" = some x → x.IsSequenceSection

/-- The number under a key of the section on the sequence. -/
def givenNumber? (d : Document) (k : String) : Option ℤ :=
  (d.get? "sequence").bind (·.number? k)

/-- The filter in the section on the log. -/
def givenFilter? (d : Document) : Option String := (d.get? "log").bind filter?

/-- The settings are those that the document gives, and the standard ones where it gives none. -/
structure Gives (d : Document) (s : Settings) : Prop where
  terms : (s.terms.toNat : ℤ) = (d.givenNumber? "terms").getD 10
  previous : (s.seed.previous.toNat : ℤ) = (d.givenNumber? "previous").getD 0
  current : (s.seed.current.toNat : ℤ) = (d.givenNumber? "current").getD 1
  filter : s.log.bind (·.filter) = d.givenFilter?

end Document

/-! ## Section by section -/

section

variable {es : List (String × Document)} {s : Settings}

/-- An entry is read if its section is, or if it is ignored and has no overflow in it. -/
theorem exists_settingsEntry_iff (s : Settings) (e : String × Document) :
    (∃ s', settingsEntry s e = .ok s') ↔
      (e.1 = "log" → ∃ l, e.2.logSettings = .ok l) ∧
        (e.1 ≠ "log" → (e.1 = "sequence" → ∃ q, e.2.sequenceSettings = .ok q) ∧
          (e.1 ≠ "sequence" → e.2.Everywhere Document.InRange)) := by
  rw [settingsEntry, exists_ite_ok_iff, exists_ite_ok_iff, exists_map_ok_iff, exists_unit_ok_iff,
    ignore_eq_ok_iff]

/-- A table is a document with settings if each of its entries is what its key asks for. -/
theorem isSettings_table_iff (hes : (es.map Prod.fst).Nodup) :
    (Document.table es).IsSettings ↔ ∀ e ∈ es,
      (e.1 = "log" → e.2.IsLogSection ∧
        ∀ path kind, e.2.At path (.overflow kind) → IsUnread path) ∧
      (e.1 ≠ "log" →
        (e.1 = "sequence" → e.2.IsSequenceSection ∧ e.2.Everywhere Document.InRange) ∧
          (e.1 ≠ "sequence" → e.2.Everywhere Document.InRange)) := by
  constructor
  · rintro ⟨hrange, hlog, hsequence⟩ ⟨k, c⟩ hc
    -- What is out of range is in the section on the log, or nowhere.
    have hunread (path : List Step) (kind : NumberKind) (hx : c.At path (.overflow kind)) :
        k = "log" ∧ IsUnread path := by
      obtain ⟨i, rest, hpath⟩ := hrange _ kind (.key hc hx)
      cases hpath
      exact ⟨rfl, i, rest, rfl⟩
    have hother (hk : k ≠ "log") : c.Everywhere Document.InRange := by
      rw [Document.everywhere_inRange_iff]
      exact fun path kind hx => hk (hunread path kind hx).1
    refine ⟨fun hk => ⟨?_, ?_⟩, fun hk => ⟨fun hk' => ⟨?_, hother hk⟩, fun _ => hother hk⟩⟩
    · exact (forall_lookup_iff hes).1 hlog (k, c) hc hk
    · exact fun path kind hx => (hunread path kind hx).2
    · exact (forall_lookup_iff hes).1 hsequence (k, c) hc hk'
  · intro h
    -- Outside the section on the log, everything is looked at.
    have hother (e : String × Document) (he : e ∈ es) (hk : e.1 ≠ "log") :
        e.2.Everywhere Document.InRange := by
      by_cases hk' : e.1 = "sequence"
      · exact (((h e he).2 hk).1 hk').2
      · exact ((h e he).2 hk).2 hk'
    refine ⟨fun path kind hx => ?_, ?_, ?_⟩
    · obtain _ | ⟨hc, hx⟩ := hx
      rename_i k c path
      by_cases hk : k = "log"
      · obtain ⟨i, rest, rfl⟩ := ((h _ hc).1 hk).2 path kind hx
        rw [hk]
        exact ⟨i, rest, rfl⟩
      · exact absurd hx (Document.everywhere_inRange_iff.1 (hother _ hc hk) path kind)
    · exact (forall_lookup_iff hes).2 fun e he hk => ((h e he).1 hk).1
    · refine (forall_lookup_iff hes).2 fun e he hk => (((h e he).2 ?_).1 hk).1
      rw [hk]
      decide

/-- The entries of a table are read if the table is a document with settings. -/
theorem exists_settings_iff (hd : (Document.table es).Distinct) :
    (∃ s, es.foldlM settingsEntry {} = .ok s) ↔ (Document.table es).IsSettings := by
  obtain ⟨hes, hdistinct⟩ := Document.distinct_table_iff.1 hd
  rw [exists_foldlM_iff exists_settingsEntry_iff, isSettings_table_iff hes]
  refine forall₂_congr fun e he => ?_
  rw [exists_logSettings_iff (hdistinct e he), exists_sequenceSettings_iff (hdistinct e he)]

theorem settingsEntry_log (s : Settings) (d : Document) (s' : Settings)
    (h : settingsEntry s ("log", d) = .ok s') : ∃ l, d.logSettings = .ok l ∧ s'.log = some l := by
  obtain ⟨l, hl, rfl⟩ := map_ok_iff.1 h
  exact ⟨l, hl, rfl⟩

theorem settingsEntry_sequence (s : Settings) (d : Document) (s' : Settings)
    (h : settingsEntry s ("sequence", d) = .ok s') :
    ∃ q, d.sequenceSettings = .ok q ∧ s'.sequence = some q := by
  obtain ⟨q, hq, rfl⟩ := map_ok_iff.1 h
  exact ⟨q, hq, rfl⟩

/-- An entry changes the part of the settings that its key names. -/
theorem settingsEntry_other (s : Settings) (e : String × Document) (s' : Settings)
    (h : settingsEntry s e = .ok s') :
    (e.1 ≠ "log" → s'.log = s.log) ∧ (e.1 ≠ "sequence" → s'.sequence = s.sequence) := by
  rw [settingsEntry] at h
  split_ifs at h with hlog hsequence
  · obtain ⟨l, -, rfl⟩ := map_ok_iff.1 h
    exact ⟨fun hk => absurd hlog hk, fun _ => rfl⟩
  · obtain ⟨q, -, rfl⟩ := map_ok_iff.1 h
    exact ⟨fun _ => rfl, fun hk => absurd hsequence hk⟩
  · obtain ⟨_, -, rfl⟩ := map_ok_iff.1 h
    exact ⟨fun _ => rfl, fun _ => rfl⟩

/-- The sequence is as the section on the sequence says. -/
theorem settings_sequence_eq (hd : (Document.table es).Distinct)
    (h : es.foldlM settingsEntry {} = .ok s) :
    (s.terms.toNat : ℤ) = ((Document.table es).givenNumber? "terms").getD 10 ∧
      (s.seed.previous.toNat : ℤ) = ((Document.table es).givenNumber? "previous").getD 0 ∧
      (s.seed.current.toNat : ℤ) = ((Document.table es).givenNumber? "current").getD 1 := by
  obtain ⟨hes, hdistinct⟩ := Document.distinct_table_iff.1 hd
  obtain ⟨hnone, hsome⟩ := foldlM_field "sequence" (·.sequence)
    (fun d o => ∃ q, d.sequenceSettings = .ok q ∧ o = some q) settingsEntry_sequence
    (fun s e s' hk h => (settingsEntry_other s e s' h).2 hk) hes h
  simp only [Document.givenNumber?, Document.get?]
  rw [Settings.terms, Settings.seed]
  rcases hl : es.lookup "sequence" with _ | x
  · rw [hnone hl]
    exact ⟨rfl, rfl, rfl⟩
  · -- Of the section, the terms may be missing still; the seed is whole.
    obtain ⟨q, hq, hs⟩ := hsome x hl
    have hx := hdistinct _ ((lookup_eq_some_iff_mem hes).1 hl)
    obtain ⟨hterms, hprevious, hcurrent⟩ := sequenceSettings_eq hx hq
    rw [hs]
    refine ⟨?_, hprevious, hcurrent⟩
    rw [Option.bind_some, Option.bind_some, ← hterms]
    rcases q.terms with _ | v
    · rfl
    · rfl

/-- The filter is as the section on the log says. -/
theorem settings_filter_eq (hd : (Document.table es).Distinct)
    (h : es.foldlM settingsEntry {} = .ok s) :
    s.log.bind (·.filter) = (Document.table es).givenFilter? := by
  obtain ⟨hes, hdistinct⟩ := Document.distinct_table_iff.1 hd
  obtain ⟨hnone, hsome⟩ := foldlM_field "log" (·.log)
    (fun d o => ∃ l, d.logSettings = .ok l ∧ o = some l) settingsEntry_log
    (fun s e s' hk h => (settingsEntry_other s e s' h).1 hk) hes h
  rw [Document.givenFilter?, Document.get?]
  rcases hl : es.lookup "log" with _ | x
  · rw [hnone hl]
    rfl
  · obtain ⟨l, hlog, hs⟩ := hsome x hl
    have hx := hdistinct _ ((lookup_eq_some_iff_mem hes).1 hl)
    rw [hs]
    exact logSettings_filter hx hlog

theorem gives_settings (hd : (Document.table es).Distinct)
    (h : es.foldlM settingsEntry {} = .ok s) : (Document.table es).Gives s := by
  obtain ⟨hterms, hprevious, hcurrent⟩ := settings_sequence_eq hd h
  exact ⟨hterms, hprevious, hcurrent, settings_filter_eq hd h⟩

end

/-! ## The order of the keys -/

section

variable {d x : Document} {k : String} {path : List Step}

/-- A value without items and without entries is arranged as it is. -/
theorem arranged_eq_iff (hx : x.IsLeaf) : d.arranged = x ↔ d = x := by
  rcases x with _ | _ | _ | _ | _ | _ | _ | _
  case array => exact hx.elim
  case table => exact hx.elim
  all_goals cases d <;> simp [Document.arranged]

theorem at_arranged_leaf_iff (hx : x.IsLeaf) : d.arranged.At path x ↔ d.At path x := by
  simp only [at_arranged_iff, arranged_eq_iff hx, exists_eq_right]

theorem isAmount_arranged : d.arranged.IsAmount ↔ d.IsAmount := by
  cases d <;> simp [Document.arranged, Document.IsAmount]

theorem isText_arranged : d.arranged.IsText ↔ d.IsText := by
  cases d <;> simp [Document.arranged, Document.IsText]

theorem text?_arranged : d.arranged.text? = d.text? := by
  cases d <;> simp [Document.arranged, Document.text?]

theorem number?_arranged (hd : d.Distinct) (k : String) :
    d.arranged.number? k = d.number? k := by
  rw [Document.number?, Document.number?, get?_arranged hd]
  rcases d.get? k with _ | x
  · rfl
  · cases x <;> simp [Document.arranged]

/-- What is said of the value of a key, if there is one, whatever the order of the keys. -/
theorem forall_get?_arranged_iff {P : Document → Prop} (hd : d.Distinct)
    (hP : ∀ x, x.Distinct → (P x.arranged ↔ P x)) :
    (∀ x, d.arranged.get? k = some x → P x) ↔ ∀ x, d.get? k = some x → P x := by
  rw [get?_arranged hd]
  rcases hk : d.get? k with _ | x
  · simp
  · simp [hP x (hd.of_get? hk)]

theorem filter?_arranged (hd : d.Distinct) : d.arranged.filter? = d.filter? := by
  cases d with
  | array ds =>
    rcases ds with _ | ⟨d, ds⟩
    · rfl
    · rw [Document.arranged, arrangedItems, Document.filter?, Document.filter?, text?_arranged]
  | table es =>
    have h := get?_arranged hd "filter"
    rw [arranged_table] at h ⊢
    rw [Document.filter?, Document.filter?, h, Option.bind_map]
    · simp only [Function.comp_def, text?_arranged]
    all_goals rintro _ _ ⟨⟩
  | _ => simp [Document.arranged]

theorem isLogSection_arranged (hd : d.Distinct) : d.arranged.IsLogSection ↔ d.IsLogSection := by
  cases d with
  | array ds =>
    rcases ds with _ | ⟨d, ds⟩
    · simp [Document.arranged, arrangedItems]
    · simp only [Document.arranged, arrangedItems, Document.IsLogSection, isText_arranged]
  | table es =>
    have h := forall_get?_arranged_iff (k := "filter") hd fun x _ => isText_arranged (d := x)
    rw [arranged_table] at h ⊢
    exact h
  | _ => simp [Document.arranged]

theorem isSequenceSection_arranged (hd : d.Distinct) :
    d.arranged.IsSequenceSection ↔ d.IsSequenceSection := by
  cases d with
  | table es =>
    have hamount (k : String) := forall_get?_arranged_iff (k := k) hd
      fun x _ => isAmount_arranged (d := x)
    have hshort (path : List Step) (n : ℤ) :
        (Document.table es).arranged.At path (.integer n) ↔
          (Document.table es).At path (.integer n) := at_arranged_leaf_iff trivial
    rw [arranged_table] at hamount hshort ⊢
    exact and_congr (forall₂_congr fun k _ => hamount k)
      (forall₂_congr fun k _ => forall₂_congr fun path n => imp_congr_left (hshort _ n))
  | array ds => simp [Document.arranged, Document.IsSequenceSection]
  | _ => simp [Document.arranged]

/-- To look at keys in ascending order is to find the same settings. -/
theorem isSettings_arranged (hd : d.Distinct) :
    d.arranged.IsSettings ↔ d.IsSettings := by
  have hrange (path : List Step) (kind : NumberKind) :
      d.arranged.At path (.overflow kind) ↔ d.At path (.overflow kind) :=
    at_arranged_leaf_iff trivial
  have hlog := forall_get?_arranged_iff (k := "log") hd fun x => isLogSection_arranged (d := x)
  have hsequence :=
    forall_get?_arranged_iff (k := "sequence") hd fun x => isSequenceSection_arranged (d := x)
  constructor
  · rintro ⟨h₁, h₂, h₃⟩
    exact ⟨fun path kind hx => h₁ path kind ((hrange path kind).2 hx), hlog.1 h₂, hsequence.1 h₃⟩
  · rintro ⟨h₁, h₂, h₃⟩
    exact ⟨fun path kind hx => h₁ path kind ((hrange path kind).1 hx), hlog.2 h₂, hsequence.2 h₃⟩

/-- To look at keys in ascending order is to find the same values. -/
theorem gives_arranged_iff (hd : d.Distinct) {s : Settings} : d.arranged.Gives s ↔ d.Gives s := by
  have hnumber (k : String) : d.arranged.givenNumber? k = d.givenNumber? k := by
    rw [Document.givenNumber?, Document.givenNumber?, get?_arranged hd]
    rcases h : d.get? "sequence" with _ | x
    · rfl
    · exact number?_arranged (hd.of_get? h) k
  have hfilter : d.arranged.givenFilter? = d.givenFilter? := by
    rw [Document.givenFilter?, Document.givenFilter?, get?_arranged hd]
    rcases h : d.get? "log" with _ | x
    · rfl
    · exact filter?_arranged (hd.of_get? h)
  constructor
  · rintro ⟨h₁, h₂, h₃, h₄⟩
    rw [hnumber] at h₁ h₂ h₃
    rw [hfilter] at h₄
    exact ⟨h₁, h₂, h₃, h₄⟩
  · rintro ⟨h₁, h₂, h₃, h₄⟩
    rw [← hnumber] at h₁ h₂ h₃
    rw [← hfilter] at h₄
    exact ⟨h₁, h₂, h₃, h₄⟩

end

end OpeningTerms.Toml

namespace OpeningTerms.Settings

open Toml

/-- A document with distinct keys gives settings exactly if it is one with settings. -/
theorem ofDocument_gives {es : List (String × Document)} (hd : (Document.table es).Distinct) :
    ((∃ s, ofDocument (.table es) = .ok s) ↔ (Document.table es).IsSettings) ∧
      ∀ s, ofDocument (.table es) = .ok s → (Document.table es).Gives s := by
  have harranged := hd.arranged
  rw [← isSettings_arranged hd]
  simp only [← gives_arranged_iff hd]
  rw [ofDocument, arranged_table] at *
  exact ⟨exists_settings_iff harranged, fun s h => gives_settings harranged h⟩

/-- From a place with a well-formed document, settings are loaded if it is a document with
    settings, and then they are those that it gives. -/
theorem loadFrom_gives (path : String) {place : Place} {text : String} {d : Document}
    (htext : place.text = .ok text) (hd : Document.read? text = some d) :
    ((∃ s, loadFrom path place = .ok s) ↔ d.IsSettings) ∧
      ∀ s, loadFrom path place = .ok s → d.Gives s := by
  have hload (s : Settings) : loadFrom path place = .ok s ↔ ofDocument d = .ok s := by
    rw [loadFrom_eq htext hd]
    rcases ofDocument d with m | s
    · simp [Except.mapError]
    · simp [Except.mapError]
  simp only [hload]
  obtain ⟨es, rfl, hdistinct⟩ := read?_distinct hd
  exact ofDocument_gives hdistinct

/-- A number out of range behind the filter of a log does no harm. -/
theorem loadFrom_gives_unread_overflow :
    ∃ s, loadFrom "" (.file "log=[\"info\",0x]\nsequence.terms=3".toUTF8) = .ok s ∧
      (s.terms.toNat : ℤ) = 3 ∧ s.log.bind (·.filter) = some "info" := by
  have hd : Document.read? "log=[\"info\",0x]\nsequence.terms=3" = some (.table
      [("log", .array [.text "info", .overflow .integer]),
        ("sequence", .table [("terms", .integer 3)])]) := by
    have htokens : tokens? "log=[\"info\",0x]\nsequence.terms=3".toList = some
        [.word "log".toList, .equals, .openBracket, .text false "info".toList, .comma,
          .word "0x".toList, .closeBracket, .newline, .word "sequence".toList, .dot,
          .word "terms".toList, .equals, .word "3".toList] := by decide +kernel
    rw [Document.read?_eq (by decide +kernel) htokens rfl]
    rfl
  obtain ⟨hiff, hgives⟩ := loadFrom_gives "" (Place.text_toUTF8 _) hd
  have hsequence : (Document.table [("terms", .integer 3)]).IsSequenceSection ∧
      (Document.table [("terms", .integer 3)]).Everywhere Document.InRange := by
    rw [isSequenceSection_table_iff (by decide)]
    simp [Document.mem_amountKeys, Document.IsAmount]
  obtain ⟨s, hs⟩ : ∃ s,
      loadFrom "" (.file "log=[\"info\",0x]\nsequence.terms=3".toUTF8) = .ok s := by
    refine hiff.2 ⟨?_, ?_, ?_⟩
    · intro path kind h
      obtain _ | ⟨hc, h⟩ := h
      simp only [List.mem_cons, Prod.mk.injEq, List.not_mem_nil, or_false] at hc
      rcases hc with ⟨rfl, rfl⟩ | ⟨rfl, rfl⟩
      · obtain ⟨i, rest, rfl⟩ := unread_array (d := .text "info") trivial _ kind h
        exact ⟨i, rest, rfl⟩
      · exact absurd h (Document.everywhere_inRange_iff.1 hsequence.2 _ kind)
    · rintro x ⟨⟩
      exact trivial
    · rintro x ⟨⟩
      exact hsequence.1
  obtain ⟨hterms, -, -, hfilter⟩ := hgives s hs
  exact ⟨s, hs, hterms, hfilter⟩

end OpeningTerms.Settings
