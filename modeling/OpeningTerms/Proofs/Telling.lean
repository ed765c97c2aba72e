import OpeningTerms.Proofs.Output
import OpeningTerms.Program

/-!
# What is told

What a run tells are the terms that it has produced, each with its index, all that exist unless one
of them could not be written; and that it is complete if it is (`run_events`). Events of that kind
are less important than warnings (`rank_of_mem_run_events`).

A message comes from outside, in part; in a line of the log, it is written so that no part of it is
a command to a terminal, which leaves any other text as it is (`Text.inert_eq_self`).
-/

namespace OpeningTerms

/-! ## The events of a run -/

/-- The events that tell of values, the first of which has the index `i`. -/
def termEvents (i : ℕ) (vs : List UInt64) : List Log.Event :=
  (vs.zipIdx i).map fun (v, i) => .term i v

/-- Whether a run failed as a term could not be written. -/
def RunError.isWrite : RunError → Bool
  | .write _ => true
  | _ => false

theorem termEvents_cons (i : ℕ) (v : UInt64) (vs : List UInt64) :
    termEvents i (v :: vs) = .term i v :: termEvents (i + 1) vs := rfl

section

variable {σ : Type} [Sink σ]

/-- To write terms is to tell of them in order: of all that exist, or, if one of them could not be
    written, up to this one. -/
theorem Progress.writeTerms_events (n : ℕ) (p : Progress σ) :
    let r := writeTerms n p
    ∃ vs, vs <+: (p.generator.take n).1 ∧
      r.1.events.toList = p.events.toList ++ termEvents p.written vs ∧
      p.written + vs.length = r.1.written + (if r.2.any RunError.isWrite then 1 else 0) ∧
      (r.2.any RunError.isWrite = false → vs = (p.generator.take n).1) := by
  intro r
  induction n generalizing p with
  | zero =>
    refine ⟨[], List.nil_prefix, ?_, rfl, fun _ => rfl⟩
    simp [r, writeTerms, termEvents]
  | succ n ih =>
    rcases hg : p.generator.next with o | ⟨v, g⟩
    · obtain ⟨hnone, rfl⟩ := Generator.next_eq_error_iff.1 hg
      have hr : r = _ := writeTerms_of_error hg
      rw [hr, Generator.take_of_none (Generator.next?_eq_none_iff.2 hnone)]
      exact ⟨[], List.nil_prefix, (List.append_nil _).symm, rfl, fun _ => rfl⟩
    · have hg' := Generator.next?_eq_some_iff.2 hg
      rw [Generator.take_succ_of_some hg']
      rcases hw : Sink.writeAll p.sink (pieces v) with ⟨w, _ | fault⟩
      · have hr : r = _ := writeTerms_of_written hg hw
        obtain ⟨vs, hvs, hevents, hwritten, hall⟩ := ih { p.tell (.term p.written v) with
          generator := g, sink := w, written := p.written + 1 }
        rw [← hr] at hevents hwritten hall
        refine ⟨v :: vs, List.cons_prefix_cons.2 ⟨rfl, hvs⟩, ?_, ?_, fun h => by rw [hall h]⟩
        · rw [hevents, termEvents_cons, tell, Array.toList_push, List.append_assoc]
          rfl
        · rw [List.length_cons, ← Nat.add_assoc, Nat.add_right_comm]
          exact hwritten
      · -- The term is told before it turns out that it cannot be written.
        have hr : r = _ := writeTerms_of_fault hg hw
        rw [hr]
        exact ⟨[v], List.cons_prefix_cons.2 ⟨rfl, List.nil_prefix⟩, Array.toList_push, rfl,
          fun h => by cases h⟩

/-- To finish is to tell that the run is complete, unless the sink does not let itself be
    flushed. -/
theorem Progress.finish_events (terms : UInt64) (p : Progress σ) :
    (p.finish terms).1.events.toList =
      p.events.toList ++ if (p.finish terms).2.isNone then [.complete terms] else [] := by
  rw [finish]
  generalize Sink.flush p.sink = r
  obtain ⟨w, _ | fault⟩ := r
  · exact Array.toList_push
  · exact (List.append_nil _).symm

theorem Progress.finish_written (terms : UInt64) (p : Progress σ) :
    (p.finish terms).1.written = p.written := by
  rw [finish]
  rcases Sink.flush p.sink with ⟨w, _ | fault⟩
  · rfl
  · rfl

/-- Where it is finished, no term is left that could not be written. -/
theorem Progress.finish_any_isWrite (terms : UInt64) (p : Progress σ) :
    (p.finish terms).2.any RunError.isWrite = false := by
  rw [finish_error]
  rcases (Sink.flush p.sink).2 with _ | fault
  · rfl
  · rfl

/-- What a run tells are the terms that exist, in order, up to one that could not be written if
    there is one, and that it is complete if it does not fail. -/
theorem run_events (cfg : Settings) (w : σ) :
    let r := run cfg w
    ∃ vs, vs <+: ((Generator.ofSeed cfg.seed).take cfg.terms.toNat).1 ∧
      r.1.events.toList = termEvents 0 vs ++ (if r.2.isNone then [.complete cfg.terms] else []) ∧
      vs.length = r.1.written + (if r.2.any RunError.isWrite then 1 else 0) ∧
      (r.2.any RunError.isWrite = false →
        vs = ((Generator.ofSeed cfg.seed).take cfg.terms.toNat).1) := by
  obtain ⟨vs, hvs, hevents, hwritten, hall⟩ :=
    Progress.writeTerms_events cfg.terms.toNat (.start cfg w)
  rw [Progress.start_written, Nat.zero_add] at hwritten
  refine ⟨vs, hvs, ?_⟩
  rw [run, ← Progress.start]
  -- From here on it only matters whether writing the terms has failed.
  generalize Progress.writeTerms cfg.terms.toNat (.start cfg w) = r at hevents hwritten hall ⊢
  obtain ⟨p, _ | e⟩ := r
  · refine ⟨(p.finish_events cfg.terms).trans (congrArg (· ++ _) hevents), ?_, fun _ => hall rfl⟩
    rw [p.finish_written, p.finish_any_isWrite]
    exact hwritten
  · exact ⟨hevents.trans (List.append_nil _).symm, hwritten, hall⟩

/-- Nothing that a run tells is as important as a warning. -/
theorem rank_of_mem_run_events {cfg : Settings} {w : σ} {e : Log.Event}
    (he : e ∈ (run cfg w).1.events.toList) : Log.Level.warn.rank < e.level.rank := by
  obtain ⟨vs, -, hevents, -⟩ := run_events cfg w
  rw [hevents, List.mem_append, termEvents, List.mem_map] at he
  rcases he with ⟨⟨v, i⟩, -, rfl⟩ | he
  · exact show Log.Level.warn.rank < Log.Level.debug.rank by decide
  · split_ifs at he
    · rw [List.mem_singleton.1 he]
      exact show Log.Level.warn.rank < Log.Level.info.rank by decide
    · cases he

end

/-! ## Lines of the log -/

namespace Text

theorem inert_append (s t : String) : inert (s ++ t) = inert s ++ inert t := by
  rw [inert, inert, inert, ← String.ofList_append, String.toList_append, inertChars, inertChars,
    inertChars, List.flatMap_append]

/-- A text without any command is inert already. -/
theorem inert_eq_self {s : String} (h : ∀ c ∈ s.toList, isCommand c = false) : inert s = s := by
  rw [inert, inertChars_eq_self h, String.ofList_toList]

end Text

/-- The warning that settings could not be loaded. -/
theorem Log.Event.line_loadFailed (e : LoadError) (wording : Wording) :
    (Event.loadFailed e).line wording =
      " WARN fibseq: " ++ Text.inert (e.summary wording) ++ "; using defaults" := by
  have hend : Text.inert "; using defaults" = "; using defaults" := by decide +kernel
  have hlevel : (Event.loadFailed e).level = .warn := rfl
  have hmessage : (Event.loadFailed e).message wording =
      e.summary wording ++ "; using defaults" := rfl
  have hvalues : (Event.loadFailed e).values = [] := rfl
  have hhead : " WARN fibseq: " =
      .ofList (List.replicate (5 - Level.warn.name.length) ' ') ++
        (Level.warn.name ++ " " ++ logTarget ++ ": ") := by decide +kernel
  rw [line, text, hlevel, hmessage, hvalues, Text.inert_append, hend, hhead, List.map_nil,
    String.join_nil]
  simp only [String.append_assoc, String.append_empty]

end OpeningTerms
