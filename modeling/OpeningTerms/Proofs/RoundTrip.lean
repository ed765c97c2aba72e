import OpeningTerms.Proofs.Members
import OpeningTerms.Proofs.SeedReaders
import OpeningTerms.Proofs.Sheets
import OpeningTerms.Settings.File

/-!
# Seeds that are written and read

A seed is written as a JSON object of its two halves, or as a TOML document with a line for each.
Both are of the plainest kind, so they are read as they were written (`Json.read_object`,
`Toml.read?_sheet`), and the halves are found under their keys. Below the header of the section on
the sequence the lines are read by the reader of settings, which finds the same halves, and no
number of terms.

* `read_written`: a seed is the same again, be it from JSON, from TOML or from a settings file.
-/

namespace OpeningTerms.Seed

variable (s : Seed)

/-! ## JSON -/

theorem toJson_eq : s.toJson = Json.objectText s.fields := by
  simp [toJson, fields, Json.objectText, Json.endText, Json.fieldText, ← String.toList_inj]

theorem isPlainText_fields : ∀ f ∈ s.fields, Json.IsPlainText f.1 := by
  simp only [fields, List.forall_mem_cons]
  unfold Json.IsPlainText
  decide +kernel

theorem amount_amountValue (n : UInt64) : (Json.amountValue n).amount = .ok n := by
  rw [Json.amountValue, Json.Value.amount, if_pos (Int.natCast_nonneg _), Int.toNat_natCast,
    UInt64.ofNat_toNat]

/-- The object with the two halves stands for the seed. -/
theorem seed_object_fields : (Json.Value.object (s.fields.map Json.fieldMember)).seed = .ok s := by
  simp only [fields, List.map_cons, List.map_nil, Json.fieldMember, Json.Value.seed,
    List.foldlM_cons, List.foldlM_nil, Json.Halves.member, amount_amountValue]
  rfl

/-- What is written as JSON is read as the seed. -/
theorem ofJson_toJson : ofJson s.toJson = .ok s := by
  rw [ofJson, toJson_eq, Json.read_object s.isPlainText_fields]
  simp only [seed_object_fields]
  rfl

/-! ## TOML -/

/-- A line for each of the two halves. -/
def tomlLines : Toml.Lines := s.fields.map fun f => (f.1, .amount f.2)

theorem toToml_eq : s.toToml = s.tomlLines.text := by
  simp [toToml, tomlLines, fields, Toml.Lines.text, Toml.toList_written_amount, ← String.toList_inj]

theorem isProper_tomlLines : s.tomlLines.IsProper where
  nodup := by
    change ["previous", "current"].Nodup
    decide
  bare := by
    simp only [tomlLines, fields, List.map_cons, List.map_nil, List.forall_mem_cons]
    unfold Toml.IsBareKey
    decide +kernel
  value := by
    simp only [tomlLines, fields, List.map_cons, List.map_nil, List.forall_mem_cons]
    exact ⟨trivial, trivial, by simp⟩

open Toml

/-- The entries of the document are the fields, in whatever order. -/
theorem mem_sortedEntries_iff {k : String} {d : Document} :
    (k, d) ∈ sortedEntries s.tomlLines.entries ↔ ∃ n, (k, n) ∈ s.fields ∧ d = .integer n.toNat := by
  rw [mem_sortedEntries, tomlLines, Lines.entries, List.map_map]
  simp only [List.mem_map, Function.comp_def, PlainValue.document, Prod.mk.injEq]
  constructor
  · rintro ⟨_, ⟨⟨k, n⟩, hmem, rfl, rfl⟩, rfl⟩
    exact ⟨n, hmem, by rw [Document.arranged]⟩
  · rintro ⟨n, hmem, rfl⟩
    exact ⟨_, ⟨⟨k, n⟩, hmem, rfl, rfl⟩, by rw [Document.arranged]⟩

theorem key_of_mem_sortedEntries {e : String × Document}
    (he : e ∈ sortedEntries s.tomlLines.entries) : e.1 = "previous" ∨ e.1 = "current" := by
  obtain ⟨n, hk, -⟩ := s.mem_sortedEntries_iff.1 he
  simp only [fields, List.mem_cons, Prod.mk.injEq, List.not_mem_nil, or_false] at hk
  exact hk.imp And.left And.left

theorem nodup_sortedEntries_tomlLines :
    ((sortedEntries s.tomlLines.entries).map Prod.fst).Nodup := by
  rw [nodup_sortedEntries, Lines.entries, List.map_map]
  exact s.isProper_tomlLines.nodup

/-- A half is found under its key. -/
theorem keptHalf_fields {k : String} {n : UInt64} (hk : (k, n) ∈ s.fields) (default : UInt64) :
    keptHalf k default (sortedEntries s.tomlLines.entries) = .ok n := by
  have hmem := s.mem_sortedEntries_iff.2 ⟨n, hk, rfl⟩
  have hlookup : (sortedEntries s.tomlLines.entries).lookup k = some (.integer n.toNat) :=
    (lookup_eq_some_iff_mem s.nodup_sortedEntries_tomlLines).2 hmem
  rw [keptHalf, hlookup]
  exact amount_ok_iff.2 rfl

/-- The document with the two halves stands for the seed. -/
theorem seed_document : (Document.table s.tomlLines.entries).arranged.seed = .ok s := by
  rw [arranged_table, seed_table_ok_iff s.nodup_sortedEntries_tomlLines]
  -- Both halves are found, and there is no entry besides them.
  refine ⟨s.keptHalf_fields (by simp [fields]) _, s.keptHalf_fields (by simp [fields]) _, ?_⟩
  intro e he hprevious hcurrent
  rcases s.key_of_mem_sortedEntries he with hk | hk
  · exact absurd hk hprevious
  · exact absurd hk hcurrent

/-- As a section on the sequence it gives the seed as well, and no number of terms. -/
theorem sequenceSettings_document :
    (Document.table s.tomlLines.entries).arranged.sequenceSettings = .ok ⟨none, s⟩ := by
  have hseed := s.seed_document
  rw [arranged_table] at hseed ⊢
  -- Neither of the two keys is that of the number of terms.
  have hterms : (sortedEntries s.tomlLines.entries).lookup "terms" = none := by
    refine List.lookup_eq_none_iff.2 fun e he => bne_iff_ne.2 fun hk => ?_
    rcases s.key_of_mem_sortedEntries he with hk' | hk'
    · exact absurd (hk.trans hk') (by decide)
    · exact absurd (hk.trans hk') (by decide)
  rw [sequenceSettings_ok_iff s.nodup_sortedEntries_tomlLines,
    foldlM_termsEntry_ok_iff s.nodup_sortedEntries_tomlLines hterms]
  refine ⟨⟨rfl, ?_⟩, hseed⟩
  rintro ⟨k, d⟩ he
  obtain ⟨n, -, rfl⟩ := s.mem_sortedEntries_iff.1 he
  exact Document.IsAmount.everywhere_isShort (exists_amount_iff.1 ⟨n, amount_ok_iff.2 rfl⟩)

/-- What is written as TOML is a table with the two halves. -/
theorem read?_toToml : Document.read? s.toToml = some (.table s.tomlLines.entries) := by
  have hproper : (Sheet.mk s.tomlLines []).IsProper :=
    ⟨by simpa using s.isProper_tomlLines.nodup, s.isProper_tomlLines, by simp, by simp⟩
  have hread := read?_sheet hproper
  rw [Sheet.text, Sections.text, String.append_empty, ← toToml_eq, Sheet.document] at hread
  rw [hread]
  simp [Sections.entries]

/-- What is written as TOML is read as the seed. -/
theorem ofToml_toToml : ofToml s.toToml = .ok s := by
  rw [ofToml, read?_toToml]
  simp only [seed_document]
  rfl

/-! ## Settings -/

theorem read?_section :
    Document.read? ("[sequence]\n" ++ s.toToml) =
      some (.table [("sequence", .table s.tomlLines.entries)]) := by
  have hbare : IsBareKey "sequence" := by
    unfold IsBareKey
    decide +kernel
  have hproper : (Sheet.mk [] [("sequence", s.tomlLines)]).IsProper :=
    ⟨List.nodup_singleton _, ⟨List.nodup_nil, by simp, by simp⟩,
      List.forall_mem_singleton.2 hbare, List.forall_mem_singleton.2 s.isProper_tomlLines⟩
  have htext : (Sheet.mk [] [("sequence", s.tomlLines)]).text = "[sequence]\n" ++ s.toToml := by
    rw [toToml_eq, Sheet.text, Lines.text, Sections.text, Sections.text, String.append_empty,
      String.empty_append]
    rfl
  rw [← htext]
  exact read?_sheet hproper

/-- Below the header of its section, the same text is a settings file. -/
theorem loadFrom_toToml (path : String) :
    Settings.loadFrom path (.file ("[sequence]\n" ++ s.toToml).toUTF8) =
      .ok { sequence := some ⟨none, s⟩ } := by
  rw [Settings.loadFrom_eq (Place.text_toUTF8 _) s.read?_section, Settings.ofDocument,
    arranged_singleton]
  simp only [List.foldlM_cons, List.foldlM_nil, settingsEntry, sequenceSettings_document]
  rfl

/-- A seed that is written as JSON or as TOML is read as it was, and is written as it was again.
    As the section on the sequence, what is written as TOML gives settings with this seed and with
    the standard number of terms. -/
theorem read_written (s : Seed) (path : String) :
    ofJson s.toJson = .ok s ∧ ofToml s.toToml = .ok s ∧
      (ofJson s.toJson).map toJson = .ok s.toJson ∧ (ofToml s.toToml).map toToml = .ok s.toToml ∧
      ∃ cfg, Settings.loadFrom path (.file ("[sequence]\n" ++ s.toToml).toUTF8) = .ok cfg ∧
        cfg.seed = s ∧ cfg.terms = Settings.defaultTerms := by
  refine ⟨s.ofJson_toJson, s.ofToml_toToml, ?_, ?_, _, s.loadFrom_toToml path, rfl, rfl⟩
  · rw [ofJson_toJson]
    rfl
  · rw [ofToml_toToml]
    rfl

end OpeningTerms.Seed
