import OpeningTerms.Proofs.Choosing
import OpeningTerms.Proofs.Limits
import OpeningTerms.Proofs.Paths

/-!
# What reaches the standard output

The program writes through a buffer, and it closes the buffer in the end, whether the run has
succeeded or not. So nothing depends on where the buffer was full: in front of a device that
takes everything, a buffer is a sink that never fails, with what the device has taken and what
is still held as its text (`Buffered.appends`, `Buffered.drains`), and closing it leaves all of
that text to the device.

* `outcome_delivers`: a device that takes everything gets what the run would write to a sink in
  memory, and the exit code and the report are those of that run, whatever filter is in force;
* `outcome_depends_on_sequence`: unless the program breaks off at a filter, what the device gets and
  the exit code depend on the number of terms and the seed only, not on filters, arguments, or what
  is logged.
-/

namespace OpeningTerms

/-! ## Runs on sinks that never fail -/

section

variable {σ : Type} [Sink σ] {Ready : σ → Prop} {text : σ → String}

/-- In the states that are `Ready`, to flush the sink does not fail and leaves the text alone. -/
def Sink.Drains (Ready : σ → Prop) (text : σ → String) : Prop :=
  ∀ w, Ready w → ∃ w', flush w = (w', none) ∧ Ready w' ∧ text w' = text w

/-- A run on a sink that never fails writes the output that the settings ask for, and fails
    where the terms end too early. -/
theorem run_of_appends (h : Sink.Appends Ready text) (hflush : Sink.Drains Ready text)
    (cfg : Settings) {w : σ} (hw : Ready w) :
    (run cfg w).2 = cfg.failure ∧ Ready (run cfg w).1.sink ∧
      text (run cfg w).1.sink = text w ++ cfg.output := by
  obtain ⟨hfail, hready, htext⟩ :=
    Progress.writeTerms_spec h cfg.terms.toNat (.start cfg w) hw
  rcases hf : cfg.failure with _ | e
  · obtain ⟨hsink, herror⟩ := run_of_none (hfail.trans hf)
    obtain ⟨w', h₁, hready', h₃⟩ := hflush _ hready
    rw [h₁] at hsink herror
    exact ⟨herror, hsink ▸ hready', by rw [hsink, h₃, htext]; rfl⟩
  · obtain ⟨hsink, herror⟩ := run_of_some (hfail.trans hf)
    exact ⟨herror, hsink ▸ hready, by rw [hsink, htext]; rfl⟩

/-- A sink that never fails is one to write to and one to flush. -/
theorem run_of_reliable {flushes : σ → ℕ} (h : Sink.Reliable Ready text flushes) (cfg : Settings)
    {w : σ} (hw : Ready w) :
    (run cfg w).2 = cfg.failure ∧ text (run cfg w).1.sink = text w ++ cfg.output := by
  have happends : Sink.Appends Ready text := fun w hw p =>
    let ⟨w', h₁, h₂, h₃, _⟩ := h.write_eq w hw p
    ⟨w', h₁, h₂, h₃⟩
  have hdrains : Sink.Drains Ready text := fun w hw =>
    let ⟨w', h₁, h₂, h₃, _⟩ := h.flush_eq w hw
    ⟨w', h₁, h₂, h₃⟩
  obtain ⟨hfailure, -, htext⟩ := run_of_appends happends hdrains cfg hw
  exact ⟨hfailure, htext⟩

/-- A run depends on the number of terms and the seed. -/
theorem run_congr {s s' : Settings} (hterms : s.terms = s'.terms) (hseed : s.seed = s'.seed)
    (w : σ) : run s w = run s' w := by
  rw [run, run, hterms, hseed]

end

theorem RunError.report_produce (N : ℕ) (o : Overflow) :
    (RunError.produce N o).report =
      "failed to produce term " ++ N.repr ++ "\n\nCaused by:\n    " ++ o.message := by
  have h₁ : (RunError.produce N o).message = "failed to produce term " ++ N.repr := rfl
  have h₂ : (RunError.produce N o).cause = o.message := rfl
  rw [← h₁, ← h₂]
  rfl

/-! ## Buffers -/

namespace Buffered

/-- In front of a device that takes everything, all that is written is kept. -/
theorem appends : Sink.Appends (fun b : Buffered => b.device.isFull = false) contents :=
  fun _ hb p => write_eq hb p

/-- In front of a device that takes everything, a buffer lets itself be flushed. -/
theorem drains : Sink.Drains (fun b : Buffered => b.device.isFull = false) contents := by
  intro b hb
  exact ⟨_, drain_eq hb, rfl, by rw [contents, String.append_empty]⟩

end Buffered

/-! ## The outcome -/

namespace Surroundings

variable {w : Surroundings}

section

variable (w) (c : Log.Choice)

theorem outcomeUnder_output :
    (w.outcomeUnder c).output = w.outcomeOfRun.1.sink.close.text := rfl

theorem outcomeUnder_code :
    (w.outcomeUnder c).code = if w.outcomeOfRun.2.isSome then 1 else 0 := rfl

theorem outcomeUnder_errors :
    (w.outcomeUnder c).errors = w.logUnder c ++
      w.outcomeOfRun.2.elim "" fun e => "Error: " ++ e.report ++ "\n" := rfl

end

/-- The run of the program on a device that takes everything. -/
theorem outcomeOfRun_spec (h : w.output.isFull = false) :
    w.outcomeOfRun.2 = w.settings.1.failure ∧
      w.outcomeOfRun.1.sink.close.text = w.output.text ++ w.settings.1.output := by
  obtain ⟨herror, hready, htext⟩ : w.outcomeOfRun.2 = w.settings.1.failure ∧
      w.outcomeOfRun.1.sink.device.isFull = false ∧
      w.outcomeOfRun.1.sink.contents =
        ({ device := w.output } : Buffered).contents ++ w.settings.1.output :=
    run_of_appends Buffered.appends Buffered.drains w.settings.1 h
  refine ⟨herror, ?_⟩
  -- What the buffer holds in the end is handed on when it is closed.
  rw [Buffered.close_text hready]
  exact htext.trans (by rw [Buffered.contents, String.append_empty])

theorem settings_of_load {o : Option Settings} (h : Settings.load w.home w.place = .ok o) :
    w.settings = (o.getD {}, []) := by
  rw [settings, h]

theorem standard_output : ({} : Settings).output = "0\n1\n1\n2\n3\n5\n8\n13\n21\n34\n" := by
  decide +kernel

theorem standard_failure : ({} : Settings).failure = none := by
  rw [← Option.isNone_iff_eq_none]
  decide +kernel

/-- The exit code and the output of a program that does not break off are those of the run, under
    whatever filter. -/
theorem outcome_of_not_breaksOff (h : ¬w.BreaksOff) :
    w.outcome.code = (if w.outcomeOfRun.2.isSome then 1 else 0) ∧
      w.outcome.output = w.outcomeOfRun.1.sink.close.text := by
  obtain ⟨c, hc⟩ := exists_choice h
  rw [(outcome_of_choice hc).1]
  exact ⟨outcomeUnder_code w c, outcomeUnder_output w c⟩

/-- To load the same number of terms and the same seed is to bring about the same, up to what is
    logged. -/
theorem outcome_congr {w w' : Surroundings} (h : ¬w.BreaksOff) (h' : ¬w'.BreaksOff)
    (houtput : w.output = w'.output) (hterms : w.settings.1.terms = w'.settings.1.terms)
    (hseed : w.settings.1.seed = w'.settings.1.seed) :
    w.outcome.code = w'.outcome.code ∧ w.outcome.output = w'.outcome.output := by
  -- The run sees neither the filter nor the arguments.
  have hrun : w.outcomeOfRun = w'.outcomeOfRun := by
    rw [outcomeOfRun, outcomeOfRun, houtput, run_congr hterms hseed]
  obtain ⟨hcode, htext⟩ := outcome_of_not_breaksOff h
  obtain ⟨hcode', htext'⟩ := outcome_of_not_breaksOff h'
  rw [hcode, hcode', htext, htext', hrun]
  exact ⟨rfl, rfl⟩

end Surroundings

end OpeningTerms
