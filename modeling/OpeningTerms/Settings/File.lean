import OpeningTerms.Settings.OfDocument

/-!
# The settings file

The settings are kept in a file in the home directory, which need not exist. What
stands in its place is a `Place`. Reading it can fail in two ways, and the error says
at which path: there is no text to be read, or the text is not that of settings.

* `loadFrom` reads the settings in a place;
* `load` does so unless there is nothing there, which is no error.
-/

namespace OpeningTerms

/-- What is found where a file is looked for. -/
inductive Place where
  /-- Nothing. -/
  | vacant
  | directory
  /-- Nothing, as what should be the directory above is a file. -/
  | blocked
  | file (bytes : ByteArray)

/-- Why there is no text in a place. -/
inductive ReadFault where
  | notFound
  | isDirectory
  | notDirectory
  | notText
deriving DecidableEq

/-- The sentence that reports why there is no text. -/
def ReadFault.message : ReadFault → String
  | .notFound => "No such file or directory (os error 2)"
  | .isDirectory => "Is a directory (os error 21)"
  | .notDirectory => "Not a directory (os error 20)"
  | .notText => "stream did not contain valid UTF-8"

/-- Why there are no settings in a text. -/
inductive ParseFault where
  /-- The text is not a well-formed document. -/
  | malformed
  | mismatch (m : Mismatch)

/-- How the reader of documents words what is wrong with one. It quotes the document and may
    take several lines, so the words are left open. -/
abbrev Wording := ParseFault → String

/-- What stands for the words of the reader of documents where these are not known. -/
def Wording.standIn : Wording := fun _ => "<toml>"

/-- Why no settings were loaded from the place at a path. -/
inductive LoadError where
  | read (path : String) (fault : ReadFault)
  | parse (path : String) (fault : ParseFault)

namespace LoadError

/-- The path at which settings were looked for. -/
def path : LoadError → String
  | .read path _ => path
  | .parse path _ => path

/-- The sentence that reports an error, without its cause. -/
def message : LoadError → String
  | .read path _ => "failed to read config at " ++ path
  | .parse path _ => "failed to parse config at " ++ path

/-- An error names its path. -/
theorem message_eq (e : LoadError) :
    e.message = "failed to read config at " ++ e.path ∨
      e.message = "failed to parse config at " ++ e.path := by
  rcases e with ⟨path, fault⟩ | ⟨path, fault⟩
  · exact .inl rfl
  · exact .inr rfl

/-- The sentence that reports the cause. A malformed document has none here: where it
    is at fault is not told. -/
def cause? : LoadError → Option String
  | .read _ fault => some fault.message
  | .parse _ .malformed => none
  | .parse _ (.mismatch m) => some m.message

/-- The sentence that reports the cause of an error. -/
def source (wording : Wording) : LoadError → String
  | .read _ fault => fault.message
  | .parse _ fault => wording fault

/-- An error with its cause. -/
def summary (e : LoadError) (wording : Wording) : String := e.message ++ ": " ++ e.source wording

end LoadError

namespace Place

/-- The text in a place. -/
def text : Place → Except ReadFault String
  | .vacant => .error .notFound
  | .directory => .error .isDirectory
  | .blocked => .error .notDirectory
  | .file bytes =>
    match String.fromUTF8? bytes with
    | some s => .ok s
    | none => .error .notText

theorem text_toUTF8 (s : String) : (file s.toUTF8).text = .ok s := by
  have h : String.fromUTF8? s.toUTF8 = some s := dif_pos s.isValidUTF8
  rw [text, h]

/-- Whether there is anything in a place. -/
def isVacant : Place → Bool
  | .vacant | .blocked => true
  | .directory | .file _ => false

end Place

namespace Settings

/-- The settings in a text. -/
def ofText (text : String) : Except ParseFault Settings :=
  match Toml.Document.read? text with
  | none => .error .malformed
  | some d => (ofDocument d).mapError .mismatch

/-- The settings in the place at a path. -/
def loadFrom (path : String) (place : Place) : Except LoadError Settings :=
  match place.text with
  | .error fault => .error (.read path fault)
  | .ok text => (ofText text).mapError (.parse path)

/-- An error is about the path that was asked for. -/
theorem path_of_loadFrom_eq_error {path : String} {place : Place} {e : LoadError}
    (h : loadFrom path place = .error e) : e.path = path := by
  rw [loadFrom] at h
  rcases ht : place.text with fault | text
  · rw [ht] at h
    cases h
    rfl
  · rw [ht] at h
    rcases hs : ofText text with fault | s
    · simp only [hs] at h
      cases h
      rfl
    · simp only [hs] at h
      cases h

/-- From a place with a well-formed document, the settings in this document are loaded. -/
theorem loadFrom_eq {path text : String} {place : Place} {d : Toml.Document}
    (htext : place.text = .ok text) (hd : Toml.Document.read? text = some d) :
    loadFrom path place = (ofDocument d).mapError fun m => .parse path (.mismatch m) := by
  simp only [loadFrom, htext, ofText, hd]
  rcases ofDocument d with m | s
  · rfl
  · rfl

/-- Where the settings file of a home directory is. A slash goes between the two, unless
    the name of the directory is empty or ends in one. -/
def pathIn (home : String) : String :=
  let ends := home.isEmpty || home.toList.getLast? = some '/'
  home ++ (if ends then "" else "/") ++ ".fibseq/config.toml"

/-- The settings of a home directory, if it has a settings file. -/
def load (home : String) (place : Place) : Except LoadError (Option Settings) :=
  if place.isVacant then .ok none else (loadFrom (pathIn home) place).map some

theorem path_of_load_eq_error {home : String} {place : Place} {e : LoadError}
    (h : load home place = .error e) : e.path = pathIn home := by
  rw [load] at h
  split at h
  · cases h
  · rcases hs : loadFrom (pathIn home) place with e' | s
    · rw [hs] at h
      cases h
      exact path_of_loadFrom_eq_error hs
    · rw [hs] at h
      cases h

/-- A settings file with a well-formed document is loaded as this document says. -/
theorem load_eq {home text : String} {place : Place} {d : Toml.Document}
    (htext : place.text = .ok text) (hd : Toml.Document.read? text = some d) :
    load home place =
      ((ofDocument d).mapError fun m => .parse (pathIn home) (.mismatch m)).map some := by
  rw [← loadFrom_eq htext hd, load]
  rcases place with _ | _ | _ | bytes
  case file => rfl
  all_goals cases htext

end Settings

end OpeningTerms
