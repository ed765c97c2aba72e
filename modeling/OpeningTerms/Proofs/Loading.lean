import OpeningTerms.Proofs.Acceptance

/-!
# What comes of a place

Between a place and the settings in it lie three questions: whether there is a file, whether its
bytes are a text in UTF-8, and whether this text gives settings. Each question is asked only if the
one before it was answered with yes (`text_eq_ok_iff`, `exists_ofText_iff`). So a byte that is no
part of a text is found wherever it stands, and whatever is wrong with the text around it.

To load the settings of a home directory is to ask first whether there is anything at their path.

* `load_outcomes`: which places give settings, which give errors and of what kind, and that every
  error names the path that was looked at.
-/

namespace OpeningTerms

/-! ## From places to texts -/

section

variable {bytes : ByteArray}

theorem isValidUTF8_iff : bytes.IsValidUTF8 ↔ ∃ text : String, bytes = text.toUTF8 := by
  constructor
  · exact fun h => ⟨.fromUTF8 bytes h, rfl⟩
  · rintro ⟨text, rfl⟩
    exact text.isValidUTF8

/-- Characters in front do not make a text of what is none. -/
theorem isValidUTF8_append_iff (text : String) :
    (text.toUTF8 ++ bytes).IsValidUTF8 ↔ bytes.IsValidUTF8 := by
  have hencode (cs : List Char) : (cs.utf8Encode ++ bytes).IsValidUTF8 ↔ bytes.IsValidUTF8 := by
    induction cs with
    | nil => rw [List.utf8Encode_nil, ByteArray.empty_append]
    | cons c cs ih =>
      rw [← List.singleton_append, List.utf8Encode_append, ByteArray.append_assoc,
        ByteArray.isValidUTF8_utf8Encode_singleton_append_iff, ih]
  rw [← hencode text.toList, String.utf8Encode_toList]
  rfl

end

namespace Place

variable {place : Place}

/-- There is nothing: no file, and perhaps no directory for it. -/
def IsAbsent (place : Place) : Prop := place = .vacant ∨ place = .blocked

theorem isVacant_iff : place.isVacant ↔ place.IsAbsent := by
  rcases place with _ | _ | _ | bytes
  all_goals simp [isVacant, IsAbsent]

/-- A place has a text if it is a file with the bytes of this text. -/
theorem text_eq_ok_iff {text : String} : place.text = .ok text ↔ place = .file text.toUTF8 := by
  constructor
  · intro h
    rcases place with _ | _ | _ | bytes
    case file =>
      by_cases hbytes : bytes.IsValidUTF8
      · obtain ⟨text', rfl⟩ := isValidUTF8_iff.1 hbytes
        rw [text_toUTF8, Except.ok.injEq] at h
        rw [h]
      · rw [Place.text, String.fromUTF8?, dif_neg hbytes] at h
        cases h
    all_goals cases h
  · rintro rfl
    exact text_toUTF8 text

/-- There is no text if there is no file, or its bytes are none. -/
theorem exists_text_eq_error_iff :
    (∃ fault, place.text = .error fault) ↔
      ∀ bytes, place = .file bytes → ¬bytes.IsValidUTF8 := by
  constructor
  · rintro ⟨fault, h⟩ bytes rfl hbytes
    obtain ⟨text, rfl⟩ := isValidUTF8_iff.1 hbytes
    rw [text_toUTF8] at h
    cases h
  · intro h
    rcases htext : place.text with fault | text
    · exact ⟨fault, rfl⟩
    · exact absurd text.isValidUTF8 (h _ (text_eq_ok_iff.1 htext))

theorem text_of_not_isValidUTF8 {bytes : ByteArray} (h : ¬bytes.IsValidUTF8) :
    (file bytes).text = .error .notText := by
  rw [Place.text, String.fromUTF8?, dif_neg h]

end Place

namespace Settings

variable {path home p : String} {place : Place}

/-! ## From texts to settings -/

/-- A text of settings: a well-formed document, and one with settings. -/
def IsText (text : String) : Prop := ∃ d, Toml.Document.read? text = some d ∧ d.IsSettings

theorem exists_ofText_iff {text : String} : (∃ s, ofText text = .ok s) ↔ IsText text := by
  rw [IsText, ofText]
  rcases hread : Toml.Document.read? text with _ | d
  · simp
  · obtain ⟨es, rfl, hdistinct⟩ := Toml.read?_distinct hread
    simp only [Option.some.injEq, exists_eq_left', ← (ofDocument_gives hdistinct).1]
    rcases ofDocument (.table es) with m | s
    · simp [Except.mapError]
    · simp [Except.mapError]

/-! ## Loading -/

theorem loadFrom_of_error {fault : ReadFault} (h : place.text = .error fault) :
    loadFrom path place = .error (.read path fault) := by
  rw [loadFrom, h]

theorem loadFrom_of_ok {text : String} (h : place.text = .ok text) :
    loadFrom path place = (ofText text).mapError (.parse path) := by
  rw [loadFrom, h]

/-- The first question that is answered with no decides: settings are not loaded for want of a text
    exactly if there is no file or its bytes are no text, and for what the text says exactly if it
    is no text of settings. -/
theorem loadFrom_iff (path : String) (place : Place) :
    ((∃ fault, loadFrom path place = .error (.read path fault)) ↔
        ∀ bytes, place = .file bytes → ¬bytes.IsValidUTF8) ∧
      ((∃ fault, loadFrom path place = .error (.parse path fault)) ↔
        ∃ text : String, place = .file text.toUTF8 ∧ ¬IsText text) ∧
      ((∃ s, loadFrom path place = .ok s) ↔
        ∃ text : String, place = .file text.toUTF8 ∧ IsText text) := by
  simp only [← Place.exists_text_eq_error_iff, ← Place.text_eq_ok_iff, ← exists_ofText_iff]
  rcases htext : place.text with fault | text
  · rw [loadFrom_of_error htext]
    simp
  · rw [loadFrom_of_ok htext]
    simp only [Except.ok.injEq, exists_eq_left']
    rcases ofText text with fault | s
    · simp [Except.mapError]
    · simp [Except.mapError]

theorem load_of_isAbsent (h : place.IsAbsent) : load home place = .ok none := by
  rw [load, if_pos (Place.isVacant_iff.2 h)]

theorem load_of_not_isAbsent (h : ¬place.IsAbsent) :
    load home place = (loadFrom (pathIn home) place).map some := by
  rw [load, if_neg (mt Place.isVacant_iff.1 h)]

/-- There are no settings only where nothing is. -/
theorem load_eq_none_iff : load home place = .ok none ↔ place.IsAbsent := by
  refine ⟨fun h => ?_, load_of_isAbsent⟩
  by_contra hplace
  rcases hload : loadFrom (pathIn home) place with e | s
  · rw [load_of_not_isAbsent hplace, hload] at h
    cases h
  · rw [load_of_not_isAbsent hplace, hload] at h
    cases h

/-- What is missing is no error, so an error says that there is a directory or no text. -/
theorem fault_of_load {fault : ReadFault} (h : load home place = .error (.read p fault)) :
    fault = .isDirectory ∨ fault = .notText := by
  have hplace : ¬place.IsAbsent := by
    intro habsent
    rw [load_of_isAbsent habsent] at h
    cases h
  rcases htext : place.text with fault' | text
  · rw [load_of_not_isAbsent hplace, loadFrom_of_error htext] at h
    cases h
    rcases place with _ | _ | _ | bytes
    case vacant => exact absurd (.inl rfl) hplace
    case blocked => exact absurd (.inr rfl) hplace
    case directory =>
      cases htext
      exact .inl rfl
    case file =>
      have hbytes := Place.exists_text_eq_error_iff.1 ⟨fault, htext⟩ bytes rfl
      rw [Place.text_of_not_isValidUTF8 hbytes] at htext
      cases htext
      exact .inr rfl
  · rw [load_of_not_isAbsent hplace, loadFrom_of_ok htext] at h
    rcases hsettings : ofText text with fault' | s
    · rw [hsettings] at h
      cases h
    · rw [hsettings] at h
      cases h

/-- Settings are loaded from a file whose bytes are a text and whose text is one of settings. If the
    bytes are none, whatever part of them is to blame, it is an error of reading; else, if the text
    is none, one of its contents. Where there is nothing, the settings of a home directory are none,
    and otherwise those in the place at their path. Every error names the path that was asked
    for. -/
theorem load_outcomes (home path : String) (place : Place) :
    (((∃ fault, loadFrom path place = .error (.read path fault)) ↔
          ∀ bytes, place = .file bytes → ¬bytes.IsValidUTF8) ∧
        ((∃ fault, loadFrom path place = .error (.parse path fault)) ↔
          ∃ text : String, place = .file text.toUTF8 ∧ ¬IsText text) ∧
        ((∃ s, loadFrom path place = .ok s) ↔
          ∃ text : String, place = .file text.toUTF8 ∧ IsText text)) ∧
    (∀ (text : String) (bytes : ByteArray), ¬bytes.IsValidUTF8 →
      loadFrom path (.file (text.toUTF8 ++ bytes)) = .error (.read path .notText)) ∧
    ((load home place = .ok none ↔ place.IsAbsent) ∧
      (¬place.IsAbsent → load home place = (loadFrom (pathIn home) place).map some) ∧
      ∀ p, load home place ≠ .error (.read p .notFound) ∧
        load home place ≠ .error (.read p .notDirectory)) ∧
    (∀ e, loadFrom path place = .error e → e.path = path) ∧
    ∀ e, load home place = .error e → e.path = pathIn home := by
  refine ⟨loadFrom_iff path place, fun text bytes hbytes => ?_,
    ⟨load_eq_none_iff, load_of_not_isAbsent, fun p => ⟨fun h => ?_, fun h => ?_⟩⟩,
    fun e => path_of_loadFrom_eq_error, fun e => path_of_load_eq_error⟩
  · refine loadFrom_of_error (Place.text_of_not_isValidUTF8 ?_)
    rwa [isValidUTF8_append_iff]
  · rcases fault_of_load h with hfault | hfault
    · cases hfault
    · cases hfault
  · rcases fault_of_load h with hfault | hfault
    · cases hfault
    · cases hfault

end Settings

end OpeningTerms
