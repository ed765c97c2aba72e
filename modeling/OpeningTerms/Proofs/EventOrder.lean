import OpeningTerms.Proofs.Fallback

/-!
# The filter in force, and all that is told

The filter in force is the first of three that is of use: that of the environment, that of the
settings, and the standard one (`choice_cases`). If that of the settings is rejected, there is a
warning, and so there is if no settings can be loaded; but never both, as the standard settings,
which are in force then, have a filter of use (`load_of_rejected`). What else is told is less
important: where settings are looked for, then the terms, then that the run is complete.

* `events_in_order`: the filter in force; the events of the program in order, and when each of them
  is told; and that the warning about a rejected filter is let through. There are no events, and no
  filter, where the program breaks off.
-/

namespace OpeningTerms

/-- A filter of no use is not the standard one, so it is that in the settings, without the white
    space around it. -/
theorem Settings.logFilter_eq_trim {s : Settings} (h : ¬Log.IsFilter s.logFilter) :
    ∃ text, s.log.bind (·.filter) = some text ∧ s.logFilter = Text.trim text := by
  rw [logFilter] at h ⊢
  rcases hfilter : s.log.bind (·.filter) with _ | text
  · rw [hfilter] at h
    exact absurd Log.isFilter_default h
  · rw [hfilter, Option.map_some] at h
    rw [Option.map_some]
    -- White space alone counts as no filter, and the standard one is of use.
    by_cases hblank : Text.trim text = ""
    · rw [Option.filter_some_neg (by simpa using hblank)] at h
      exact absurd Log.isFilter_default h
    · rw [Option.filter_some_pos (by simpa using hblank)]
      exact ⟨text, rfl, rfl⟩

namespace Surroundings

variable {w : Surroundings} {c : Log.Choice}

/-! ## What is said of the filter and of the events -/

/-- The filter `f` is in force: that of the environment, else that of the settings, else the
    standard one, as far as they are of use. -/
structure HasFilter (w : Surroundings) (f : Log.Filter) : Prop where
  given : ∀ g, Log.Reads w.filter (.ok g) → f = g
  set : w.LacksFilter → ∀ g, Log.Filter.ofText w.settings.1.logFilter = .ok g → f = g
  standard : w.LacksFilter → ¬Log.IsFilter w.settings.1.logFilter → Log.Filter.ofText "warn" = .ok f

/-- All that is told, in order: the warnings that the filter in the settings is of no use and that
    no settings could be loaded, where settings are looked for, the terms `vs`, and that the run is
    complete. -/
structure Tells (w : Surroundings) (rejected failed : List Log.Event) (vs : List UInt64)
    (complete : List Log.Event) : Prop where
  events_eq : w.events =
    rejected ++ failed ++ [.settingsPath (Settings.pathIn w.home)] ++ termEvents 0 vs ++ complete
  /-- A filter is rejected if it were in force and is none. The warning names it, without the white
      space around it. -/
  rejected_eq : w.LacksFilter → ¬Log.IsFilter w.settings.1.logFilter →
    ∃ text fault, w.settings.1.log.bind (·.filter) = some text ∧
      Log.Filter.ofText (Text.trim text) = .error (.invalid fault) ∧
      rejected = [.filterRejected fault (Text.trim text)] ∧
      (Log.Event.filterRejected fault (Text.trim text)).values =
        [("filter", Text.quote (Text.trim text))]
  rejected_nil : ¬(w.LacksFilter ∧ ¬Log.IsFilter w.settings.1.logFilter) → rejected = []
  failed_eq : ∀ e, Settings.load w.home w.place = .error e → failed = [.loadFailed e]
  failed_nil : ∀ s, Settings.load w.home w.place = .ok s → failed = []
  /-- Terms are told as they are produced: all that exist, unless one could not be written. -/
  terms : vs <+: ((Generator.ofSeed w.settings.1.seed).take w.settings.1.terms.toNat).1
  terms_length : vs.length = w.outcomeOfRun.1.written +
    (if w.outcomeOfRun.2.any RunError.isWrite then 1 else 0)
  terms_all : w.outcomeOfRun.2.any RunError.isWrite = false →
    vs = ((Generator.ofSeed w.settings.1.seed).take w.settings.1.terms.toNat).1
  complete_eq : w.outcome.code = 0 → complete = [.complete w.settings.1.terms]
  complete_nil : w.outcome.code ≠ 0 → complete = []
  /-- How important each of them is. -/
  levels : (∀ e ∈ rejected ++ failed, e.level = .warn) ∧
    (∀ e ∈ .settingsPath (Settings.pathIn w.home) :: termEvents 0 vs, e.level = .debug) ∧
    ∀ e ∈ complete, e.level = .info

/-! ## The two warnings -/

/-- Settings are loaded without an event, or the failure is told and the standard ones are used. -/
theorem settings_cases (w : Surroundings) :
    (∃ s, Settings.load w.home w.place = .ok s ∧ w.settings = (s.getD {}, [])) ∨
      ∃ e, Settings.load w.home w.place = .error e ∧ w.settings = ({}, [.loadFailed e]) := by
  rcases hload : Settings.load w.home w.place with e | s
  · exact .inr ⟨e, rfl, settings_of_load_eq_error hload⟩
  · exact .inl ⟨s, rfl, settings_of_load hload⟩

/-- All that is told of loading settings is that it has failed. -/
theorem eq_loadFailed_of_mem {e : Log.Event} (he : e ∈ w.settings.2) :
    ∃ err, e = .loadFailed err := by
  rcases w.settings_cases with ⟨s, -, hs⟩ | ⟨err, -, hs⟩
  · rw [hs] at he
    cases he
  · rw [hs] at he
    exact ⟨err, List.mem_singleton.1 he⟩

/-- Where a filter is rejected, settings have been loaded. -/
theorem load_of_rejected (h : ¬Log.IsFilter w.settings.1.logFilter) : w.settings.2 = [] := by
  rcases w.settings_cases with ⟨s, -, hs⟩ | ⟨e, -, hs⟩
  · rw [hs]
  · rw [hs] at h
    exact absurd Log.isFilter_default h

/-- A warning is about the filter or about the settings. -/
theorem mem_of_warn {e : Log.Event} (he : e ∈ w.eventsUnder c) (hlevel : e.level = .warn) :
    e ∈ c.events ∨ e ∈ w.settings.2 := by
  rw [eventsUnder, List.mem_append, List.mem_append, List.mem_append] at he
  rcases he with ((he | he) | he) | he
  · exact .inl he
  · exact .inr he
  · rw [List.mem_singleton.1 he] at hlevel
    cases hlevel
  · -- What the run itself tells is less important than a warning.
    have hrank := rank_of_mem_run_events he
    rw [hlevel] at hrank
    exact absurd hrank (lt_irrefl _)

/-! ## The choice -/

section

variable (hc : w.choice? = some c)

include hc

/-- A filter is rejected or none is. One is rejected where it is none and would have been in force,
    and the standard one is in force then. -/
theorem rejected_cases :
    (c.events = [] ∧ ¬(w.LacksFilter ∧ ¬Log.IsFilter w.settings.1.logFilter)) ∨
      ∃ fault, w.LacksFilter ∧ Log.Filter.ofText w.settings.1.logFilter = .error (.invalid fault) ∧
        c = ⟨Log.standardFilter, [.filterRejected fault w.settings.1.logFilter]⟩ := by
  -- Only the third of the four ways to choose rejects a filter; the last chooses none.
  rcases w.choice_cases with
    ⟨f, hgiven, h⟩ | ⟨f, -, hf, h⟩ | ⟨fault, hlacks, hfault, h⟩ | ⟨-, h⟩
  · cases hc.symm.trans h
    exact .inl ⟨rfl, fun hlacks => hlacks.1 f hgiven⟩
  · cases hc.symm.trans h
    exact .inl ⟨rfl, fun hlacks => hlacks.2 ⟨f, hf⟩⟩
  · cases hc.symm.trans h
    exact .inr ⟨fault, hlacks, hfault, rfl⟩
  · cases hc.symm.trans h

theorem hasFilter_of_choice : w.HasFilter c.filter := by
  rcases w.choice_cases with
    ⟨f, hgiven, h⟩ | ⟨f, hlacks, hf, h⟩ | ⟨fault, hlacks, hfault, h⟩ | ⟨-, h⟩
  · cases hc.symm.trans h
    refine ⟨fun g hg => ?_, fun hlacks => absurd hgiven (hlacks f), fun hlacks =>
      absurd hgiven (hlacks f)⟩
    exact Except.ok.inj (hgiven.unique hg)
  · cases hc.symm.trans h
    refine ⟨fun g hg => absurd hg (hlacks g), fun _ g hg => ?_, fun _ hnone => ?_⟩
    · exact Except.ok.inj (hf.symm.trans hg)
    · exact absurd ⟨f, hf⟩ hnone
  · cases hc.symm.trans h
    refine ⟨fun g hg => absurd hg (hlacks g), fun _ g hg => ?_, fun _ _ =>
      Log.filter_ofText_default⟩
    cases hfault.symm.trans hg
  · cases hc.symm.trans h

/-- What is told of a filter that is rejected. -/
theorem events_of_choice (hlacks : w.LacksFilter) (hnone : ¬Log.IsFilter w.settings.1.logFilter) :
    ∃ text fault, w.settings.1.log.bind (·.filter) = some text ∧
      Log.Filter.ofText (Text.trim text) = .error (.invalid fault) ∧
      c.events = [.filterRejected fault (Text.trim text)] := by
  obtain ⟨text, htext, htrim⟩ := Settings.logFilter_eq_trim hnone
  rcases rejected_cases hc with ⟨-, hused⟩ | ⟨fault, -, hfault, rfl⟩
  · exact absurd ⟨hlacks, hnone⟩ hused
  · rw [htrim] at hfault
    exact ⟨text, fault, htext, hfault, by rw [htrim]⟩

theorem events_of_choice_nil (h : ¬(w.LacksFilter ∧ ¬Log.IsFilter w.settings.1.logFilter)) :
    c.events = [] := by
  rcases rejected_cases hc with ⟨hnil, -⟩ | ⟨fault, hlacks, hfault, -⟩
  · exact hnil
  · exact absurd ⟨hlacks, Log.not_isFilter hfault⟩ h

/-- All that is told of the choice is that a filter was rejected. -/
theorem eq_filterRejected_of_mem {e : Log.Event} (he : e ∈ c.events) :
    ∃ fault text, e = .filterRejected fault text := by
  rcases rejected_cases hc with ⟨h, -⟩ | ⟨fault, -, -, rfl⟩
  · rw [h] at he
    cases he
  · exact ⟨fault, _, List.mem_singleton.1 he⟩

theorem level_of_mem_choice {e : Log.Event} (he : e ∈ c.events) : e.level = .warn := by
  obtain ⟨fault, text, rfl⟩ := eq_filterRejected_of_mem hc he
  rfl

end

/-! ## All that is told -/

/-- A failure to load settings is a warning. -/
theorem level_of_mem_settings {e : Log.Event} (he : e ∈ w.settings.2) : e.level = .warn := by
  obtain ⟨err, rfl⟩ := eq_loadFailed_of_mem he
  rfl

/-- Every term is told for debugging. -/
theorem level_of_mem_termEvents {e : Log.Event} {i : ℕ} {vs : List UInt64}
    (he : e ∈ termEvents i vs) : e.level = .debug := by
  obtain ⟨⟨v, i⟩, -, rfl⟩ := List.mem_map.1 he
  rfl

/-- Under a filter, the exit code tells whether the run has failed. -/
theorem outcomeUnder_code_eq_zero_iff (w : Surroundings) (c : Log.Choice) :
    (w.outcomeUnder c).code = 0 ↔ w.outcomeOfRun.2.isNone = true := by
  rw [outcomeUnder_code]
  rcases w.outcomeOfRun.2 with _ | e
  · exact iff_of_true rfl rfl
  · exact iff_of_false (show ¬(1 : UInt32) = 0 by decide) Bool.false_ne_true

/-- Whatever filter is in force, the events of the program fall into the parts of `Tells`. -/
theorem exists_tells (hc : w.choice? = some c) :
    ∃ rejected failed vs complete, w.Tells rejected failed vs complete := by
  obtain ⟨hout, hevents, -⟩ := outcome_of_choice hc
  have hcode := outcomeUnder_code_eq_zero_iff w c
  rw [← hout] at hcode
  obtain ⟨vs, hvs, hrun, hlength, hall⟩ :=
    run_events w.settings.1 ({ device := w.output } : Buffered)
  refine ⟨c.events, w.settings.2, vs,
    if w.outcomeOfRun.2.isNone then [.complete w.settings.1.terms] else [], ?_⟩
  constructor
  case events_eq =>
    rw [hevents, eventsUnder, outcomeOfRun, hrun, ← List.append_assoc]
  case rejected_eq =>
    intro hlacks hnone
    obtain ⟨text, fault, htext, hfault, hrejected⟩ := events_of_choice hc hlacks hnone
    exact ⟨text, fault, htext, hfault, hrejected, rfl⟩
  case rejected_nil => exact events_of_choice_nil hc
  case failed_eq =>
    intro e he
    rw [settings_of_load_eq_error he]
  case failed_nil =>
    intro s hs
    rw [settings_of_load hs]
  case terms => exact hvs
  case terms_length => exact hlength
  case terms_all => exact hall
  case complete_eq =>
    intro hzero
    rw [if_pos (hcode.1 hzero)]
  case complete_nil =>
    intro hzero
    rw [if_neg fun hnone => hzero (hcode.2 hnone)]
  case levels =>
    refine ⟨fun e he => ?_, fun e he => ?_, fun e he => ?_⟩
    · exact (List.mem_append.1 he).elim (level_of_mem_choice hc) level_of_mem_settings
    · rcases List.mem_cons.1 he with rfl | he
      · rfl
      · exact level_of_mem_termEvents he
    · split_ifs at he
      · rw [List.mem_singleton.1 he]
        rfl
      · cases he

/-- Where a warning says that a filter was rejected, settings have been loaded, and the standard
    filter is in force. -/
theorem of_rejected (hc : w.choice? = some c) {fault : Log.FilterFault} {text : String}
    (he : .filterRejected fault text ∈ w.eventsUnder c) :
    w.settings.2 = [] ∧ c.filter = Log.standardFilter := by
  rcases mem_of_warn he rfl with he | he
  · rcases rejected_cases hc with ⟨h, -⟩ | ⟨_, -, hfault, rfl⟩
    · rw [h] at he
      cases he
    · exact ⟨load_of_rejected (Log.not_isFilter hfault), rfl⟩
  · -- Loading settings tells nothing of a filter.
    obtain ⟨err, heq⟩ := eq_loadFailed_of_mem he
    cases heq

/-- Where a warning says that settings could not be loaded, it comes from loading them. -/
theorem mem_settings_of_failed (hc : w.choice? = some c) {e : LoadError}
    (he : .loadFailed e ∈ w.eventsUnder c) : .loadFailed e ∈ w.settings.2 := by
  refine (mem_of_warn he rfl).resolve_left fun he => ?_
  obtain ⟨fault, text, heq⟩ := eq_filterRejected_of_mem hc he
  cases heq

end Surroundings

end OpeningTerms
