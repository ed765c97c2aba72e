import OpeningTerms.Proofs.Cuts
import OpeningTerms.Program

/-!
# The choice of a filter

Filters are tried in turn: that of the environment, that of the settings, and the standard one,
which is always of use. A filter is passed over if it is none, and only that of the settings is rejected
with a warning (`Log.chooseFilter_cases`). A text in which the reader breaks off is not passed over.
It ends the program, which has told and written nothing by then (`outcome_of_breaksOff`).

* `Surroundings.choice?_eq_none_iff`: where the program breaks off;
* `Surroundings.BreaksOff.exists_isShifted`: there is white space in front of a directive then, and
  a character of several bytes in it.
-/

namespace OpeningTerms

namespace Log

variable {environment : Option ByteArray}

/-- The text stands for a filter. -/
def IsFilter (text : String) : Prop := ∃ f, Filter.ofText text = .ok f

/-- There is a text in the environment, and `r` comes of reading it as a filter. -/
def Reads (environment : Option ByteArray) (r : Except FilterError Filter) : Prop :=
  ∃ bytes text, environment = some bytes ∧ String.fromUTF8? bytes = some text ∧
    Filter.ofText text = r

/-- The standard filter lets everything through up to warnings. -/
theorem standardFilter_admits (e : Event) :
    standardFilter.admits e = decide (e.level.rank ≤ Level.warn.rank) := rfl

theorem filter_ofText_default : Filter.ofText Settings.defaultLogFilter = .ok standardFilter := by
  rfl

theorem isFilter_default : IsFilter Settings.defaultLogFilter := ⟨_, filter_ofText_default⟩

theorem not_isFilter {text : String} {e : FilterError} (h : Filter.ofText text = .error e) :
    ¬IsFilter text := by
  rintro ⟨f, hf⟩
  cases h.symm.trans hf

/-- The filter in the environment is read if there is one and it is text. -/
theorem environmentFilter?_eq_some_iff {r : Except FilterError Filter} :
    environmentFilter? environment = some r ↔ Reads environment r := by
  simp only [environmentFilter?, Option.bind_eq_bind, Option.bind_eq_some_iff, Option.some.injEq,
    Reads, exists_and_left]

/-- What comes of a text in the environment is one thing. -/
theorem Reads.unique {r r' : Except FilterError Filter} (h : Reads environment r)
    (h' : Reads environment r') : r = r' := by
  rw [← environmentFilter?_eq_some_iff] at h h'
  exact Option.some.inj (h.symm.trans h')

/-- The setting is a filter, or it is replaced by the standard one and this is told, or its reader
breaks off. -/
theorem chooseSetting_cases (setting : String) :
    (∃ f, Filter.ofText setting = .ok f ∧ chooseSetting setting = some { filter := f }) ∨
      (∃ fault, Filter.ofText setting = .error (.invalid fault) ∧
        chooseSetting setting = some ⟨standardFilter, [.filterRejected fault setting]⟩) ∨
      Filter.ofText setting = .error .brokenOff ∧ chooseSetting setting = none := by
  rw [chooseSetting]
  rcases Filter.ofText setting with (fault | _) | f
  · exact .inr (.inl ⟨fault, rfl, rfl⟩)
  · exact .inr (.inr ⟨rfl, rfl⟩)
  · exact .inl ⟨f, rfl, rfl⟩

/-- The filter in the environment is chosen, or ends the program, or leaves the choice to the
    settings. -/
theorem chooseFilter_cases (environment : Option ByteArray) (setting : String) :
    (∃ f, Reads environment (.ok f) ∧ chooseFilter environment setting = some { filter := f }) ∨
      (Reads environment (.error .brokenOff) ∧ chooseFilter environment setting = none) ∨
      (∀ f, ¬Reads environment (.ok f)) ∧ ¬Reads environment (.error .brokenOff) ∧
        chooseFilter environment setting = chooseSetting setting := by
  simp only [← environmentFilter?_eq_some_iff, chooseFilter]
  -- No text, a text that is no filter, one in which the reader breaks off, or a filter.
  rcases environmentFilter? environment with _ | (fault | _) | f
  · exact .inr (.inr ⟨fun f h => (by cases h), fun h => (by cases h), rfl⟩)
  · exact .inr (.inr ⟨fun f h => (by cases h), fun h => (by cases h), rfl⟩)
  · exact .inr (.inl ⟨rfl, rfl⟩)
  · exact .inl ⟨f, rfl, rfl⟩

end Log

namespace Surroundings

variable {w : Surroundings} {c : Log.Choice}

/-- No filter of use is in the environment. -/
def LacksFilter (w : Surroundings) : Prop := ∀ f, ¬Log.Reads w.filter (.ok f)

/-- The reader of filters breaks off: in the text of the environment, or else in that of the
    settings, if it comes to this. -/
def BreaksOff (w : Surroundings) : Prop :=
  Log.Reads w.filter (.error .brokenOff) ∨
    w.LacksFilter ∧ Log.Filter.ofText w.settings.1.logFilter = .error .brokenOff

/-- The filter in force is that of the environment, that of the settings, or the standard one, or
    else the program breaks off. -/
theorem choice_cases (w : Surroundings) :
    (∃ f, Log.Reads w.filter (.ok f) ∧ w.choice? = some { filter := f }) ∨
      (∃ f, w.LacksFilter ∧ Log.Filter.ofText w.settings.1.logFilter = .ok f ∧
        w.choice? = some { filter := f }) ∨
      (∃ fault, w.LacksFilter ∧
        Log.Filter.ofText w.settings.1.logFilter = .error (.invalid fault) ∧
        w.choice? =
          some ⟨Log.standardFilter, [.filterRejected fault w.settings.1.logFilter]⟩) ∨
      w.BreaksOff ∧ w.choice? = none := by
  rw [choice?, BreaksOff]
  rcases Log.chooseFilter_cases w.filter w.settings.1.logFilter with
    ⟨f, hf, h⟩ | ⟨hbroken, h⟩ | ⟨hlacks, -, h⟩
  · exact .inl ⟨f, hf, h⟩
  · exact .inr (.inr (.inr ⟨.inl hbroken, h⟩))
  · rw [h]
    rcases Log.chooseSetting_cases w.settings.1.logFilter with
      ⟨f, hf, hset⟩ | ⟨fault, hfault, hset⟩ | ⟨hbroken, hset⟩
    · exact .inr (.inl ⟨f, hlacks, hf, hset⟩)
    · exact .inr (.inr (.inl ⟨fault, hlacks, hfault, hset⟩))
    · exact .inr (.inr (.inr ⟨.inr ⟨hlacks, hbroken⟩, hset⟩))

/-- No filter is chosen exactly where a reader of filters breaks off. -/
theorem choice?_eq_none_iff : w.choice? = none ↔ w.BreaksOff := by
  constructor
  · intro h
    rcases w.choice_cases with ⟨_, -, hc⟩ | ⟨_, -, -, hc⟩ | ⟨_, -, -, hc⟩ | ⟨hbroken, -⟩
    · cases hc.symm.trans h
    · cases hc.symm.trans h
    · cases hc.symm.trans h
    · exact hbroken
  · rw [choice?]
    rcases Log.chooseFilter_cases w.filter w.settings.1.logFilter with
      ⟨f, hf, -⟩ | ⟨-, h⟩ | ⟨-, hunbroken, h⟩
    · -- A filter of use in the environment leaves neither way to break off.
      rintro (hbroken | ⟨hlacks, -⟩)
      · cases hf.unique hbroken
      · exact absurd hf (hlacks f)
    · exact fun _ => h
    · rintro (hbroken | ⟨-, hbroken⟩)
      · exact absurd hbroken hunbroken
      · rw [h, Log.chooseSetting, hbroken]

/-- Where the program does not break off, there is a filter in force. -/
theorem exists_choice (h : ¬w.BreaksOff) : ∃ c, w.choice? = some c :=
  Option.ne_none_iff_exists'.1 fun hnone => h (choice?_eq_none_iff.1 hnone)

theorem not_breaksOff_of_choice (h : w.choice? = some c) : ¬w.BreaksOff := by
  rw [← choice?_eq_none_iff, h]
  exact Option.some_ne_none c

/-- There must be white space in front of a directive and a character of several bytes in it, in the
    environment or in the settings, for the program to break off. -/
theorem BreaksOff.exists_isShifted (h : w.BreaksOff) :
    ∃ text, (w.filter.bind String.fromUTF8? = some text ∨ text = w.settings.1.logFilter) ∧
      ∃ part ∈ Log.splitCommas text.toList, Log.IsShifted part := by
  rcases h with ⟨bytes, text, hbytes, htext, hbroken⟩ | ⟨-, hbroken⟩
  · exact ⟨text, .inl (by rw [hbytes, Option.bind_some, htext]),
      Log.Filter.exists_isShifted hbroken⟩
  · exact ⟨_, .inr rfl, Log.Filter.exists_isShifted hbroken⟩

/-! ## What follows from the choice -/

/-- Under the filter that has been chosen, the program goes on. -/
theorem outcome_of_choice (h : w.choice? = some c) :
    w.outcome = w.outcomeUnder c ∧ w.events = w.eventsUnder c ∧ w.admitted = w.admittedUnder c := by
  rw [outcome, events, admitted, h]
  exact ⟨rfl, rfl, rfl⟩

/-- Where the program breaks off, nothing is told and nothing is written. -/
theorem outcome_of_breaksOff (h : w.BreaksOff) :
    w.outcome.code = 101 ∧ w.outcome.output = w.output.text ∧ w.outcome.errors = w.breakdown ∧
      w.events = [] ∧ w.admitted = [] := by
  rw [outcome, events, admitted, choice?_eq_none_iff.2 h]
  exact ⟨rfl, rfl, rfl, rfl, rfl⟩

end Surroundings

end OpeningTerms
