import OpeningTerms.Proofs.Limits
import OpeningTerms.Proofs.Lines
import OpeningTerms.Proofs.Telling

/-!
# What is told and what is received

A term is told when it has been produced, and written after that. So the log may be ahead of the
output, but by no more than one term, and only where the sink fails before the line of this term is
complete. It does not matter where in the line it fails: what a sink takes of a piece is the
beginning of it, and all of it only if it does not fail (`Sink.Takes`), so no line end is taken by a
write that fails (`Sink.Takes.writeAll_pieces`). Therefore the complete lines are counted by the
terms that have been written (`completeLines_run`).

* `events_match_lines`: the events of a run on a limited sink, compared to the lines that it has
  received.
-/

namespace OpeningTerms

/-! ## Sinks -/

/-- A sink takes the beginning of every piece of ASCII text, and the whole piece exactly if it does
    not fail. To flush it leaves alone what it has taken. -/
structure Sink.Takes {σ : Type} [Sink σ] (text : σ → String) : Prop where
  write_eq : ∀ w p, IsAscii p → ∃ q rest, p = q ++ rest ∧ text (write w p).1 = text w ++ q ∧
    ((write w p).2 = none ↔ rest = "")
  flush_eq : ∀ w, text (flush w).1 = text w

theorem LimitedSink.takes : Sink.Takes LimitedSink.text where
  write_eq := by
    intro w p hp
    change ∃ q rest, p = q ++ rest ∧ (w.write p).1.text = w.text ++ q ∧
      ((w.write p).2 = none ↔ rest = "")
    rcases hl : w.limit with _ | l
    · exact ⟨p, "", String.append_empty.symm, by simp [write, hl]⟩
    · by_cases hroom : p.utf8ByteSize ≤ l - w.text.utf8ByteSize
      · exact ⟨p, "", String.append_empty.symm, by simp [write, hl, hroom]⟩
      · -- The piece is longer than what there is room for.
        have hlt : l - w.text.utf8ByteSize < p.toList.length := hp.utf8ByteSize_eq ▸ not_le.1 hroom
        refine ⟨.ofList (p.toList.take (l - w.text.utf8ByteSize)),
          .ofList (p.toList.drop (l - w.text.utf8ByteSize)), ?_, ?_⟩
        · rw [← String.ofList_append, List.take_append_drop, String.ofList_toList]
        · simp [write, hl, hroom, hlt]
  flush_eq w := rfl

namespace Sink.Takes

variable {σ : Type} [Sink σ] {text : σ → String} (h : Takes text)

include h

/-- Pieces one after the other are taken as one. -/
theorem writeAll_eq (w : σ) (ps : List String) (hps : ∀ p ∈ ps, IsAscii p) :
    ∃ q rest, String.join ps = q ++ rest ∧ text (writeAll w ps).1 = text w ++ q ∧
      ((writeAll w ps).2 = none ↔ rest = "") := by
  induction ps generalizing w with
  | nil => exact ⟨"", "", rfl, String.append_empty.symm, iff_of_true rfl rfl⟩
  | cons p ps ih =>
    obtain ⟨q, rest, hp, htext, hnone⟩ := h.write_eq w p (hps p List.mem_cons_self)
    rw [writeAll, String.join_cons]
    rcases hw : write w p with ⟨w₁, _ | fault⟩
    · rw [hw] at htext hnone
      obtain rfl : rest = "" := hnone.1 rfl
      obtain ⟨q', rest', hps', htext', hnone'⟩ :=
        ih w₁ fun p hp => hps p (List.mem_cons_of_mem _ hp)
      refine ⟨q ++ q', rest', ?_, ?_, hnone'⟩
      · rw [hp, hps', String.append_empty, String.append_assoc]
      · rw [htext', htext, String.append_assoc]
    · -- The pieces behind this one are not written.
      rw [hw] at htext hnone
      refine ⟨q, rest ++ String.join ps, by rw [hp, String.append_assoc], htext, ?_⟩
      have hrest : rest ≠ "" := fun he => absurd (hnone.2 he) (Option.some_ne_none fault)
      simp [hrest]

/-- Of a term, the whole line is taken, or else no line end. -/
theorem writeAll_pieces (w : σ) (v : UInt64) :
    ∃ q, text (writeAll w (Progress.pieces v)).1 = text w ++ q ∧
      ((writeAll w (Progress.pieces v)).2 = none → q = v.toNat.repr ++ "\n") ∧
      ((writeAll w (Progress.pieces v)).2 ≠ none → '\n' ∉ q.toList) := by
  obtain ⟨q, rest, hline, htext, hnone⟩ := h.writeAll_eq w _ (IsAscii.pieces v)
  rw [Progress.join_pieces] at hline
  refine ⟨q, htext, fun hr => ?_, fun hr => ?_⟩
  · rw [hline, hnone.1 hr, String.append_empty]
  · have hrest : rest.toList ≠ [] := fun he => hr (hnone.2 (String.toList_eq_nil_iff.1 he))
    have hlist : v.toNat.repr.toList ++ ['\n'] = q.toList ++ rest.toList := by
      simpa using congrArg String.toList hline
    -- What has been taken is not the whole line, so it is a part of the digits.
    rcases List.prefix_concat_iff.1 ⟨rest.toList, hlist.symm⟩ with he | hdigits
    · rw [he] at hlist
      exact absurd (List.self_eq_append_right.1 hlist) hrest
    · exact fun hmem => newline_not_mem_repr v.toNat (hdigits.subset hmem)

end Sink.Takes

/-! ## Terms -/

namespace Progress

variable {σ : Type} [Sink σ] {text : σ → String}

/-- A sink receives the lines of the terms that are written, and of one more term no line end. -/
theorem writeTerms_received (h : Sink.Takes text) (n : ℕ) (p : Progress σ) :
    let r := writeTerms n p
    ∃ vs rest, vs <+: (p.generator.take n).1 ∧ p.written + vs.length = r.1.written ∧
      text r.1.sink = text p.sink ++ (lines (vs.map (·.toNat)) ++ rest) ∧ '\n' ∉ rest.toList := by
  intro r
  induction n generalizing p with
  | zero => exact ⟨[], "", List.nil_prefix, rfl, by simp [r, writeTerms, lines], by simp⟩
  | succ n ih =>
    rcases hg : p.generator.next with o | ⟨v, g⟩
    · have hr : r = _ := writeTerms_of_error hg
      rw [hr]
      exact ⟨[], "", List.nil_prefix, rfl, by simp [lines], by simp⟩
    · rw [Generator.take_succ_of_some (Generator.next?_eq_some_iff.2 hg)]
      obtain ⟨q, htext, hwhole, hpart⟩ := h.writeAll_pieces p.sink v
      rcases hw : Sink.writeAll p.sink (pieces v) with ⟨w, _ | fault⟩
      · rw [hw] at htext hwhole
        have hr : r = _ := writeTerms_of_written hg hw
        obtain ⟨vs, rest, hvs, hwritten, htext', hrest⟩ := ih { p.tell (.term p.written v) with
          generator := g, sink := w, written := p.written + 1 }
        rw [← hr] at hwritten htext'
        refine ⟨v :: vs, rest, List.cons_prefix_cons.2 ⟨rfl, hvs⟩, ?_, ?_, hrest⟩
        · rw [List.length_cons, ← hwritten]
          simp only
          omega
        · rw [htext', htext, hwhole rfl, List.map_cons, lines_cons]
          simp only [String.append_assoc]
      · rw [hw] at htext hpart
        have hr : r = _ := writeTerms_of_fault hg hw
        rw [hr]
        refine ⟨[], q, List.nil_prefix, rfl, ?_, hpart (Option.some_ne_none fault)⟩
        simp [lines, htext]

end Progress

/-! ## Runs -/

section

variable {σ : Type} [Sink σ] {text : σ → String}

/-- The complete lines that a sink receives from a run are the terms that have been written. -/
theorem completeLines_run (h : Sink.Takes text) (cfg : Settings) {w : σ} (hw : text w = "") :
    ∃ vs, vs <+: ((Generator.ofSeed cfg.seed).take cfg.terms.toNat).1 ∧
      vs.length = (run cfg w).1.written ∧
      completeLines (text (run cfg w).1.sink) = vs.map fun v => v.toNat.repr := by
  obtain ⟨vs, rest, hvs, hwritten, htext, hrest⟩ :=
    Progress.writeTerms_received h cfg.terms.toNat (.start cfg w)
  have hlines : completeLines (text (Progress.writeTerms cfg.terms.toNat (.start cfg w)).1.sink) =
      vs.map fun v => v.toNat.repr := by
    rw [htext, Progress.start_sink, hw, String.empty_append,
      completeLines_lines_append _ hrest, List.map_map]
    rfl
  rw [Progress.start_written, Nat.zero_add] at hwritten
  refine ⟨vs, hvs, ?_⟩
  rw [run, ← Progress.start]
  generalize Progress.writeTerms cfg.terms.toNat (.start cfg w) = r at hwritten hlines ⊢
  obtain ⟨p, _ | e⟩ := r
  · -- The flush at the end changes neither the lines nor their number.
    rw [Progress.finish_written, Progress.finish_sink, h.flush_eq]
    exact ⟨hwritten, hlines⟩
  · exact ⟨hwritten, hlines⟩

end

/-- To write is what has failed where the report says so. -/
theorem RunError.isWrite_iff (e : RunError) : e.isWrite ↔ e.message = "failed to write term" := by
  rcases e with ⟨N, o⟩ | fault | fault
  · exact iff_of_false Bool.false_ne_true (message_produce_ne N o)
  · exact iff_of_true rfl rfl
  · have hne : "failed to flush output" ≠ "failed to write term" := by decide
    exact iff_of_false Bool.false_ne_true hne

/-! ## Events -/

namespace Log.Event

theorem text_term (i : ℕ) (v : UInt64) :
    (term i v).text = "DEBUG fibseq: term index=" ++ i.repr ++ " value=" ++ v.toNat.repr := by
  have hmessage : Text.inert ((term i v).message .standIn) = "term" :=
    show Text.inert "term" = "term" by decide +kernel
  have hvalues : (term i v).values = [("index", i.repr), ("value", v.toNat.repr)] := rfl
  rw [text, hmessage, hvalues, ← String.toList_inj]
  simp [level, Level.name, logTarget]

theorem text_complete (terms : UInt64) :
    (complete terms).text = "INFO fibseq: sequence complete terms=" ++ terms.toNat.repr := by
  have hmessage : Text.inert ((complete terms).message .standIn) = "sequence complete" :=
    show Text.inert "sequence complete" = "sequence complete" by decide +kernel
  have hvalues : (complete terms).values = [("terms", terms.toNat.repr)] := rfl
  rw [text, hmessage, hvalues, ← String.toList_inj]
  simp [level, Level.name, logTarget]

end Log.Event

theorem map_text_termEvents (i : ℕ) (vs : List UInt64) :
    (termEvents i vs).map (·.text) = (vs.zipIdx i).map fun x =>
      "DEBUG fibseq: term index=" ++ x.2.repr ++ " value=" ++ x.1.toNat.repr := by
  rw [termEvents, List.map_map]
  exact List.map_congr_left fun x _ => Log.Event.text_term x.2 x.1

theorem getElem?_termEvents (vs : List UInt64) (i : ℕ) :
    (termEvents 0 vs)[i]? = vs[i]?.map (.term i) := by
  simp [termEvents, Function.comp_def]

/-- The events of a run on a limited sink are those of some values, in order, and at the end that
    the run is complete if it has succeeded. The complete lines that the sink has received are the
    first of these values. There is one value more if a term could not be written, and no more
    otherwise, whether the run succeeds, misses a term, or fails to flush the sink. -/
theorem events_match_lines (cfg : Settings) (limit : Option ℕ) (stalls failsToFlush : Bool) :
    let w : LimitedSink :=
      { limit, fault := if stalls then .stalled else .full, failsToFlush }
    let r := run cfg w
    let received := completeLines r.1.sink.text
    ∃ vs : List UInt64,
      r.1.events.toList =
        termEvents 0 vs ++ (if r.2.isNone then [.complete cfg.terms] else []) ∧
      r.1.events.toList.map (·.text) =
        (vs.zipIdx.map fun x =>
          "DEBUG fibseq: term index=" ++ x.2.repr ++ " value=" ++ x.1.toNat.repr) ++
        (if r.2.isNone then
          ["INFO fibseq: sequence complete terms=" ++ cfg.terms.toNat.repr] else []) ∧
      (∀ i < received.length, ∃ v, r.1.events.toList[i]? = some (.term i v) ∧
        received[i]? = some v.toNat.repr) ∧
      ((∃ e, r.2 = some e ∧ e.message = "failed to write term") →
        vs.length = received.length + 1) ∧
      ((∀ e, r.2 = some e → e.message ≠ "failed to write term") →
        vs.length = received.length) := by
  intro w r received
  obtain ⟨vs, hvs, hevents, hlength, -⟩ := run_events cfg w
  obtain ⟨us, hus, hwritten, hreceived⟩ := completeLines_run LimitedSink.takes cfg (w := w) rfl
  rw [← hwritten] at hlength
  have hcount : received.length = us.length := by
    rw [show received = _ from hreceived, List.length_map]
  -- The values that have been written are the first of those that have been told.
  have hfirst : us <+: vs := List.prefix_of_prefix_length_le hus hvs (by omega)
  refine ⟨vs, hevents, ?_, fun i hi => ?_, ?_, fun hwrite => ?_⟩
  · rw [hevents, List.map_append, map_text_termEvents, apply_ite (List.map _), List.map_singleton,
      List.map_nil, Log.Event.text_complete]
  · rw [hcount] at hi
    have htold : vs[i]? = some us[i] := List.prefix_iff_getElem?.1 hfirst i hi
    refine ⟨us[i], ?_, ?_⟩
    · have hevent : (termEvents 0 vs)[i]? = some (.term i us[i]) := by
        rw [getElem?_termEvents, htold, Option.map_some]
      rw [hevents, List.getElem?_append_left (List.getElem?_eq_some_iff.1 hevent).1, hevent]
    · rw [show received = _ from hreceived, List.getElem?_map, List.getElem?_eq_getElem hi,
        Option.map_some]
  · rintro ⟨e, he, hmessage⟩
    rw [hlength, hcount, show (run cfg w).2 = some e from he, Option.any_some,
      if_pos (e.isWrite_iff.2 hmessage)]
  · have hnot : ¬ (run cfg w).2.any RunError.isWrite := by
      rw [Option.any_eq_true]
      rintro ⟨e, he, hisWrite⟩
      exact hwrite e he (e.isWrite_iff.1 hisWrite)
    rw [hlength, hcount, if_neg hnot, Nat.add_zero]

end OpeningTerms
