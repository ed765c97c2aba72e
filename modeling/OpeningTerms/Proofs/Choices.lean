import OpeningTerms.Proofs.Acceptance
import OpeningTerms.Proofs.Sheets

/-!
# Settings that are written down

Somebody who makes some choices (`Choices`) and writes them down as a settings file, a line for
each, gets what was chosen and the standard settings for the rest. It is left open in which order
the lines of the section on the sequence come, and which of the two sections comes first: what a
table has under a key does not depend on the order of its entries (`lookup_of_perm_chosen`).

* `loadFrom_choices`: the settings in the file are the choices.
-/

namespace OpeningTerms

open Toml

/-! ## Fields with a value -/

section

variable {α : Type} {fields : List (String × Option α)} {es : List (String × α)}

/-- The fields for which a value is chosen, with this value. -/
def chosen (fields : List (String × Option α)) : List (String × α) :=
  fields.filterMap fun e => e.2.map fun v => (e.1, v)

/-- The fields that are chosen are those with a value. -/
theorem mem_chosen {k : String} {v : α} : (k, v) ∈ chosen fields ↔ (k, some v) ∈ fields := by
  simp only [chosen, List.mem_filterMap, Option.map_eq_some_iff, Prod.mk.injEq]
  constructor
  · rintro ⟨⟨k', _⟩, hmem, v', rfl, rfl, rfl⟩
    exact hmem
  · intro hmem
    exact ⟨(k, some v), hmem, v, rfl, rfl, rfl⟩

theorem chosen_sublist : ((chosen fields).map Prod.fst).Sublist (fields.map Prod.fst) := by
  induction fields with
  | nil => exact .slnil
  | cons e fields ih =>
    obtain ⟨k, _ | v⟩ := e
    · exact ih.cons k
    · exact ih.cons_cons k

theorem nodup_of_perm_chosen (hfields : (fields.map Prod.fst).Nodup)
    (hes : es.Perm (chosen fields)) : (es.map Prod.fst).Nodup :=
  (hes.map Prod.fst).nodup_iff.2 (chosen_sublist.nodup hfields)

theorem mem_of_perm_chosen (hes : es.Perm (chosen fields)) {e : String × α} (he : e ∈ es) :
    (e.1, some e.2) ∈ fields :=
  mem_chosen.1 (hes.mem_iff.1 he)

/-- In whatever order they come, the chosen values are found under their keys, and nothing else
    is. -/
theorem lookup_of_perm_chosen (f : α → Document) (hfields : (fields.map Prod.fst).Nodup)
    (hes : es.Perm (chosen fields)) {k : String} {v : Option α} (hk : (k, v) ∈ fields) :
    (es.map fun e => (e.1, f e.2)).lookup k = v.map f := by
  have hnodup : ((es.map fun e => (e.1, f e.2)).map Prod.fst).Nodup := by
    rw [List.map_map]
    exact nodup_of_perm_chosen hfields hes
  -- Under distinct keys, what is looked up is what is a member, and order does not matter for that.
  ext x
  rw [lookup_eq_some_iff_mem hnodup, List.mem_map, Option.map_eq_some_iff]
  constructor
  · rintro ⟨e, he, hx⟩
    cases hx
    -- The key has one field only.
    have := List.inj_on_of_nodup_map hfields (mem_of_perm_chosen hes he) hk rfl
    exact ⟨e.2, (Prod.mk.inj this).2.symm, rfl⟩
  · rintro ⟨v', rfl, rfl⟩
    exact ⟨(k, v'), hes.mem_iff.2 (mem_chosen.2 hk), rfl⟩

end

/-! ## Choices -/

/-- What may be chosen in a settings file. -/
structure Choices where
  terms : Option UInt64 := none
  previous : Option UInt64 := none
  current : Option UInt64 := none
  filter : Option String := none

namespace Choices

/-- The fields of the section on the sequence. -/
def numbers (c : Choices) : List (String × Option PlainValue) :=
  [("terms", c.terms.map .amount), ("previous", c.previous.map .amount),
    ("current", c.current.map .amount)]

/-- The sections, where `es` are the lines of the one on the sequence. -/
def sections (c : Choices) (es : Lines) : List (String × Option Lines) :=
  [("sequence", some es), ("log", c.filter.map fun f => [("filter", .text f)])]

variable {c : Choices} {es : Lines} {ss : Toml.Sections}

theorem nodup_numbers (c : Choices) : (c.numbers.map Prod.fst).Nodup := by
  change Document.amountKeys.Nodup
  decide

theorem nodup_sections (c : Choices) (es : Lines) : ((c.sections es).map Prod.fst).Nodup := by
  change ["sequence", "log"].Nodup
  decide

/-- A line of the section on the sequence has a number under one of its keys. -/
theorem mem_of_perm_numbers (hes : es.Perm (chosen c.numbers)) {e : String × PlainValue}
    (he : e ∈ es) : e.1 ∈ Document.amountKeys ∧ ∃ n, e.2 = .amount n := by
  have hmem := mem_of_perm_chosen hes he
  have hnumber : ∀ e ∈ c.numbers, ∃ n : Option UInt64, e.2 = n.map .amount := by
    simp only [numbers, List.forall_mem_cons]
    exact ⟨⟨_, rfl⟩, ⟨_, rfl⟩, ⟨_, rfl⟩, by simp⟩
  obtain ⟨n, hn⟩ := hnumber _ hmem
  obtain ⟨n, -, hn⟩ := Option.map_eq_some_iff.1 hn.symm
  exact ⟨List.mem_map_of_mem (f := Prod.fst) hmem, n, hn.symm⟩

/-- A section is the one on the sequence, or the one on the log with a filter. -/
theorem mem_of_perm_sections (hss : ss.Perm (chosen (c.sections es))) {t : String × Lines}
    (ht : t ∈ ss) : t = ("sequence", es) ∨ ∃ f ∈ c.filter, t = ("log", [("filter", .text f)]) := by
  obtain ⟨k, es'⟩ := t
  have hmem := mem_of_perm_chosen hss ht
  simp only [sections, List.mem_cons, Prod.mk.injEq, List.not_mem_nil, or_false] at hmem
  rcases hmem with ⟨hk, hes⟩ | ⟨hk, hes⟩
  · cases hes
    exact .inl (by rw [hk])
  · obtain ⟨f, hf, rfl⟩ := Option.map_eq_some_iff.1 hes.symm
    exact .inr ⟨f, hf, by rw [hk]⟩

theorem isBareKey {k : String}
    (hk : k ∈ Document.amountKeys ++ ["filter", "sequence", "log"]) : IsBareKey k := by
  revert k
  unfold IsBareKey
  decide +kernel

/-- The numbers that are chosen are lines of their own, in whatever order. -/
theorem isProper_lines (hes : es.Perm (chosen c.numbers)) : es.IsProper where
  nodup := nodup_of_perm_chosen (nodup_numbers c) hes
  bare e he := isBareKey (List.mem_append_left _ (mem_of_perm_numbers hes he).1)
  value e he := by
    obtain ⟨-, n, hn⟩ := mem_of_perm_numbers hes he
    rw [hn]
    trivial

theorem isProper_filterLine {f : String} (hf : (PlainValue.text f).IsProper) :
    Lines.IsProper [("filter", .text f)] where
  nodup := List.nodup_singleton _
  bare := List.forall_mem_singleton.2 (isBareKey (by simp))
  value := List.forall_mem_singleton.2 hf

/-- The choices are written down as a sheet. -/
theorem isProper_sheet (hfilter : ∀ f ∈ c.filter, (PlainValue.text f).IsProper)
    (hes : es.Perm (chosen c.numbers)) (hss : ss.Perm (chosen (c.sections es))) :
    (Sheet.mk [] ss).IsProper where
  nodup := nodup_of_perm_chosen (nodup_sections c es) hss
  lines := ⟨List.nodup_nil, by simp, by simp⟩
  bare t ht := by
    rcases mem_of_perm_sections hss ht with rfl | ⟨f, -, rfl⟩
    · exact isBareKey (by simp)
    · exact isBareKey (by simp)
  sections t ht := by
    rcases mem_of_perm_sections hss ht with rfl | ⟨f, hf, rfl⟩
    · exact isProper_lines hes
    · exact isProper_filterLine (hfilter f hf)

/-! ## What is loaded -/

theorem get?_sequence (hss : ss.Perm (chosen (c.sections es))) :
    (Document.table ss.entries).get? "sequence" = some (.table es.entries) :=
  lookup_of_perm_chosen (fun es : Lines => .table es.entries) (nodup_sections c es) hss
    List.mem_cons_self

/-- The section on the log is there if a filter is chosen. -/
theorem get?_log (hss : ss.Perm (chosen (c.sections es))) :
    (Document.table ss.entries).get? "log" =
      c.filter.map fun f => .table [("filter", .text f)] := by
  have := lookup_of_perm_chosen (fun es : Lines => .table es.entries) (nodup_sections c es) hss
    (List.mem_cons_of_mem _ List.mem_cons_self)
  rw [Option.map_map] at this
  exact this

/-- No number in a section is beyond every range. -/
theorem everywhere_inRange (ss : Toml.Sections) :
    (Document.table ss.entries).Everywhere Document.InRange := by
  rw [Document.everywhere_table_iff, Toml.Sections.entries, List.forall_mem_map]
  refine ⟨trivial, fun t _ => ?_⟩
  rw [Document.everywhere_table_iff, Lines.entries, List.forall_mem_map]
  refine ⟨trivial, fun e _ => ?_⟩
  rcases e with ⟨k, n | f⟩
  · exact (Document.everywhere_leaf_iff (d := .integer n.toNat) trivial).2 trivial
  · exact (Document.everywhere_leaf_iff (d := .text f) trivial).2 trivial

theorem isSequenceSection_lines (hes : es.Perm (chosen c.numbers)) :
    (Document.table es.entries).IsSequenceSection := by
  have hnodup : (es.entries.map Prod.fst).Nodup := by
    rw [Lines.entries, List.map_map]
    exact (isProper_lines hes).nodup
  refine ((isSequenceSection_table_iff hnodup).2 ?_).1
  rw [Lines.entries, List.forall_mem_map]
  intro e he
  obtain ⟨hk, n, hn⟩ := mem_of_perm_numbers hes he
  refine ⟨fun _ => ?_, fun hk' => absurd hk hk'⟩
  rw [hn]
  have := n.toNat_lt
  exact ⟨by omega, by omega⟩

/-- Whatever the choices are, the sheet is a document with settings. -/
theorem isSettings_sheet (hes : es.Perm (chosen c.numbers))
    (hss : ss.Perm (chosen (c.sections es))) : (Document.table ss.entries).IsSettings where
  inRange path kind h :=
    absurd h (Document.everywhere_inRange_iff.1 (everywhere_inRange ss) path kind)
  log x hx := by
    rw [get?_log hss] at hx
    obtain ⟨f, -, rfl⟩ := Option.map_eq_some_iff.1 hx
    rintro _ ⟨⟩
    trivial
  sequence x hx := by
    rw [get?_sequence hss] at hx
    cases hx
    exact isSequenceSection_lines hes

/-- The number under a key is the one that is chosen for it, if there is one. -/
theorem givenNumber?_sheet (hes : es.Perm (chosen c.numbers))
    (hss : ss.Perm (chosen (c.sections es))) {k : String} {v : Option UInt64}
    (hk : (k, v.map .amount) ∈ c.numbers) :
    (Document.table ss.entries).givenNumber? k = v.map fun n => (n.toNat : ℤ) := by
  have hlookup : es.entries.lookup k = (v.map .amount).map PlainValue.document :=
    lookup_of_perm_chosen PlainValue.document (nodup_numbers c) hes hk
  rw [Document.givenNumber?, get?_sequence hss, Option.bind_some, Document.number?,
    Document.get?, hlookup]
  rcases v with _ | n
  · rfl
  · rfl

theorem eq_getD {v : Option UInt64} {n : UInt64} (standard : UInt64)
    (h : (n.toNat : ℤ) = (v.map fun n => (n.toNat : ℤ)).getD standard.toNat) :
    n = v.getD standard := by
  rcases v with _ | m
  · exact UInt64.toNat_inj.1 (Int.ofNat_inj.1 h)
  · exact UInt64.toNat_inj.1 (Int.ofNat_inj.1 h)

/-- The sheet gives the choices. -/
theorem gives_sheet {s : Settings} (hes : es.Perm (chosen c.numbers))
    (hss : ss.Perm (chosen (c.sections es))) (hs : (Document.table ss.entries).Gives s) :
    s.terms = c.terms.getD 10 ∧ s.seed = ⟨c.previous.getD 0, c.current.getD 1⟩ ∧
      s.log.bind (·.filter) = c.filter := by
  obtain ⟨hterms, hprevious, hcurrent, hfilter⟩ := hs
  rw [givenNumber?_sheet hes hss (v := c.terms) (by simp [numbers])] at hterms
  rw [givenNumber?_sheet hes hss (v := c.previous) (by simp [numbers])] at hprevious
  rw [givenNumber?_sheet hes hss (v := c.current) (by simp [numbers])] at hcurrent
  refine ⟨eq_getD 10 hterms, ?_, ?_⟩
  · rw [← eq_getD 0 hprevious, ← eq_getD 1 hcurrent]
  · rw [hfilter, Document.givenFilter?, get?_log hss]
    rcases c.filter with _ | f
    · rfl
    · rfl

end Choices

/-- From a file in which the choices are written down, one a line, with the lines of the section
    on the sequence and the two sections in any order, the choices are loaded, and the standard
    settings where there are none. -/
theorem Settings.loadFrom_choices (path : String) (c : Choices)
    (hfilter : ∀ f ∈ c.filter, ∀ ch ∈ f.toList, isPlain ch ∧ ch ≠ '"' ∧ ch ≠ '\\')
    {es : Lines} (hes : es.Perm (chosen c.numbers)) {ss : Toml.Sections}
    (hss : ss.Perm (chosen (c.sections es))) :
    ∃ s, loadFrom path (.file ss.text.toUTF8) = .ok s ∧ s.terms = c.terms.getD 10 ∧
      s.seed = ⟨c.previous.getD 0, c.current.getD 1⟩ ∧ s.log.bind (·.filter) = c.filter := by
  have hread : Document.read? ss.text = some (.table ss.entries) := by
    have := read?_sheet (Choices.isProper_sheet hfilter hes hss)
    rwa [Sheet.text, Lines.text, String.empty_append] at this
  obtain ⟨_, ⟨⟩, hdistinct⟩ := read?_distinct hread
  obtain ⟨hiff, hgives⟩ := ofDocument_gives hdistinct
  obtain ⟨s, hs⟩ := hiff.2 (Choices.isSettings_sheet hes hss)
  refine ⟨s, ?_, Choices.gives_sheet hes hss (hgives s hs)⟩
  rw [loadFrom_eq (Place.text_toUTF8 _) hread, hs]
  rfl

/-- The largest number, and a filter that could be taken for a comment and a quote. -/
theorem Settings.loadFrom_choices_largest :
    ∃ s, loadFrom "" (.file ("[log]\nfilter = \"it's #1,debug\"\n[sequence]\n" ++
        "current = 0\nterms = 18446744073709551615\n").toUTF8) = .ok s ∧
      s.terms = 18446744073709551615 ∧ s.seed = ⟨0, 0⟩ ∧
      s.log.bind (·.filter) = some "it's #1,debug" := by
  let c : Choices := ⟨some 18446744073709551615, none, some 0, some "it's #1,debug"⟩
  let es : Lines := [("current", .amount 0), ("terms", .amount 18446744073709551615)]
  let ss : Toml.Sections := [("log", [("filter", .text "it's #1,debug")]), ("sequence", es)]
  have hplain : "it's #1,debug".toList.all fun ch => isPlain ch ∧ ch ≠ '"' ∧ ch ≠ '\\' := by
    decide +kernel
  have hfilter : ∀ f ∈ c.filter, ∀ ch ∈ f.toList, isPlain ch ∧ ch ≠ '"' ∧ ch ≠ '\\' := by
    rintro _ ⟨⟩ ch hch
    exact of_decide_eq_true (List.all_eq_true.1 hplain ch hch)
  have hes : es.Perm (chosen c.numbers) := .swap _ _ _
  have hss : ss.Perm (chosen (c.sections es)) := .swap _ _ _
  exact loadFrom_choices "" c hfilter hes hss

end OpeningTerms
