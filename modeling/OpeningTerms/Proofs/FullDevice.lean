import OpeningTerms.Proofs.Delivery

/-!
# A device that takes nothing

In front of a device that takes nothing, a buffer takes pieces as long as there is room for them.
So how a run gets on depends on the length of the output only. If the buffer has room for all of it,
the run writes all terms that exist, and fails where they end too early, or else where the buffer is
flushed with something in it (`run_of_fits`); and if the buffer is too small, the run fails at
writing a term, whether or not all terms exist (`run_of_not_fits`).

Only the sequence of zeros has no end. Any other ends after less than 94 terms of at most 20 digits,
for which there is room (`Settings.output_lt_capacity`).

* `outcome_on_full_device`: how the program ends on such a device, by the number of terms that are
  asked for and the number of terms that exist.
-/

namespace OpeningTerms

/-! ## Buffers -/

namespace Buffered

variable {b : Buffered} {p : String}

/-- There is nothing to hand on from an empty buffer, so the device is not asked. -/
theorem drain_of_empty (hb : b.held = "") : b.drain = (b, none) := by
  rw [drain, if_pos (String.isEmpty_iff.2 hb)]

/-- A buffer keeps what the device does not take. -/
theorem drain_of_full (h : b.device.isFull = true) (hb : b.held ≠ "") :
    b.drain = (b, some .deviceFull) := by
  rw [drain, if_neg (by rwa [String.isEmpty_iff]), Device.write, if_pos h]

/-- A piece is held if there is room for it. -/
theorem write_of_fits (hp : p.utf8ByteSize < capacity)
    (hfits : (b.held ++ p).utf8ByteSize ≤ capacity) :
    Sink.write b p = ({ b with held := b.held ++ p }, none) := by
  rw [String.utf8ByteSize_append] at hfits
  change b.write p = _
  rw [write, if_pos hfits, accept, if_pos hp]

/-- A piece is refused if there is no room for it and none can be made. -/
theorem write_of_not_fits (h : b.device.isFull = true) (hp : p.utf8ByteSize < capacity)
    (hfits : capacity < (b.held ++ p).utf8ByteSize) : Sink.write b p = (b, some .deviceFull) := by
  rw [String.utf8ByteSize_append] at hfits
  -- The piece alone would fit, so there is something in the buffer.
  have hheld : b.held ≠ "" := by
    intro he
    rw [he, String.utf8ByteSize_empty] at hfits
    omega
  change b.write p = _
  rw [write, if_neg (by omega), drain_of_full h hheld]

/-- Pieces are held if there is room for all of them. -/
theorem writeAll_of_fits (ps : List String) (hps : ∀ p ∈ ps, p.utf8ByteSize < capacity)
    (hfits : (b.held ++ String.join ps).utf8ByteSize ≤ capacity) :
    Sink.writeAll b ps = ({ b with held := b.held ++ String.join ps }, none) := by
  induction ps generalizing b with
  | nil => rw [Sink.writeAll, String.join_nil, String.append_empty]
  | cons p ps ih =>
    rw [List.forall_mem_cons] at hps
    rw [String.join_cons, ← String.append_assoc] at hfits ⊢
    have hp : (b.held ++ p).utf8ByteSize ≤ capacity := by
      rw [String.utf8ByteSize_append] at hfits
      omega
    rw [Sink.writeAll, write_of_fits hps.1 hp]
    exact ih hps.2 hfits

/-- Of pieces for which there is no room together, one is refused. -/
theorem writeAll_of_not_fits (h : b.device.isFull = true) (ps : List String)
    (hps : ∀ p ∈ ps, p.utf8ByteSize < capacity) (hheld : b.held.utf8ByteSize ≤ capacity)
    (hfits : capacity < (b.held ++ String.join ps).utf8ByteSize) :
    (Sink.writeAll b ps).2 = some .deviceFull := by
  induction ps generalizing b with
  | nil =>
    rw [String.join_nil, String.append_empty] at hfits
    omega
  | cons p ps ih =>
    rw [List.forall_mem_cons] at hps
    rw [String.join_cons, ← String.append_assoc] at hfits
    rw [Sink.writeAll]
    by_cases hp : (b.held ++ p).utf8ByteSize ≤ capacity
    · rw [write_of_fits hps.1 hp]
      exact ih h hps.2 hp hfits
    · rw [write_of_not_fits h hps.1 (not_le.1 hp)]

end Buffered

/-! ## The length of the output -/

/-- A word has at most twenty digits. -/
theorem utf8ByteSize_repr_le (v : UInt64) : v.toNat.repr.utf8ByteSize ≤ 20 := by
  rw [(IsAscii.repr _).utf8ByteSize_eq, String.length_toList, Nat.length_repr_le_iff (by decide)]
  exact v.toNat_lt.trans (by decide)

theorem utf8ByteSize_lines_cons (n : ℕ) (ns : List ℕ) :
    (lines (n :: ns)).utf8ByteSize = n.repr.utf8ByteSize + 1 + (lines ns).utf8ByteSize := by
  rw [lines_cons, String.utf8ByteSize_append, String.utf8ByteSize_append]
  rfl

/-- A word has at most twenty digits, so its line has at most 21 characters. -/
theorem utf8ByteSize_lines_le (vs : List UInt64) :
    (lines (vs.map (·.toNat))).utf8ByteSize ≤ 21 * vs.length := by
  induction vs with
  | nil => exact le_rfl
  | cons v vs ih =>
    have hv := utf8ByteSize_repr_le v
    rw [List.map_cons, utf8ByteSize_lines_cons, List.length_cons]
    omega

/-- A zero and the end of its line take two bytes. -/
theorem utf8ByteSize_lines_zeros (n : ℕ) :
    (lines (List.replicate n 0)).utf8ByteSize = 2 * n := by
  induction n with
  | zero => rfl
  | succ n ih =>
    have hzero : (0 : ℕ).repr.utf8ByteSize = 1 := by decide
    rw [List.replicate_succ, utf8ByteSize_lines_cons, ih, hzero]
    omega

/-- Lines are not empty, as each of them ends. -/
theorem lines_ne_empty {ns : List ℕ} (h : ns ≠ []) : lines ns ≠ "" := by
  obtain ⟨n, ns, rfl⟩ := List.exists_cons_of_ne_nil h
  rw [ne_eq, ← String.utf8ByteSize_eq_zero_iff, utf8ByteSize_lines_cons]
  omega

/-- No piece of a line fills the buffer. -/
theorem utf8ByteSize_pieces (v : UInt64) :
    ∀ p ∈ Progress.pieces v, p.utf8ByteSize < Buffered.capacity := by
  intro p hp
  rw [Progress.pieces, List.mem_pair] at hp
  rcases hp with rfl | rfl
  · exact (utf8ByteSize_repr_le v).trans_lt (by decide)
  · decide

/-! ## The number of values -/

/-- The sequence of `s` gives `N` values and no more, however many are asked for. -/
def Seed.Yields (s : Seed) (N : ℕ) : Prop :=
  ∀ n, ((Generator.ofSeed s).take n).1.length = min n N

/-- A sequence other than that of zeros gives less than 94 values. -/
theorem Seed.exists_yields {s : Seed} (hs : s ≠ ⟨0, 0⟩) : ∃ N < 94, s.Yields N := by
  have hlt : ((Generator.ofSeed s).take 94).1.length < 94 := by
    have hat := (Generator.isAt_ofSeed s).take 94
    rw [Nat.zero_add] at hat
    exact hat.lt_of_ne_zero hs
  exact ⟨_, hlt, Generator.length_take_eq_min hlt⟩

/-- There are as many zeros as are asked for. -/
theorem map_take_zeros (n : ℕ) :
    ((Generator.ofSeed ⟨0, 0⟩).take n).1.map (·.toNat) = List.replicate n 0 := by
  have hlen : ((Generator.ofSeed ⟨0, 0⟩).take n).1.length = n := by
    rw [(Generator.isAt_ofSeed _).length_take_eq_iff, Seed.term_zeros]
    decide
  rw [map_take_ofSeed, hlen]
  simp [Seed.term_zeros, List.eq_replicate_iff]

/-! ## Terms -/

/-- In front of a device that takes nothing, the lines of the terms go into the buffer as long as
    there is room for them. -/
theorem Progress.writeTerms_full (n : ℕ) (p : Progress Buffered)
    (h : p.sink.device.isFull = true) (hheld : p.sink.held.utf8ByteSize ≤ Buffered.capacity) :
    let all := p.sink.held ++ lines ((p.generator.take n).1.map (·.toNat))
    (all.utf8ByteSize ≤ Buffered.capacity →
      (writeTerms n p).1.sink = { p.sink with held := all } ∧
        (writeTerms n p).2 = failureAfter n p.written (p.generator.take n)) ∧
    (Buffered.capacity < all.utf8ByteSize → (writeTerms n p).2 = some (.write .deviceFull)) := by
  intro all
  induction n generalizing p with
  | zero =>
    have hall : all = p.sink.held := by simp [all, lines]
    rw [hall]
    exact ⟨fun _ => ⟨rfl, rfl⟩, fun hlt => absurd hlt (not_lt.2 hheld)⟩
  | succ n ih =>
    rcases hg : p.generator.next with o | ⟨v, g⟩
    · obtain ⟨hnone, rfl⟩ := Generator.next_eq_error_iff.1 hg
      have hg' := Generator.next?_eq_none_iff.2 hnone
      have hall : all = p.sink.held := by simp [all, lines, Generator.take_of_none hg']
      rw [hall, failureAfter_of_none hg', writeTerms_of_error hg]
      exact ⟨fun _ => ⟨rfl, rfl⟩, fun hlt => absurd hlt (not_lt.2 hheld)⟩
    · have hg' := Generator.next?_eq_some_iff.2 hg
      have hall : all = p.sink.held ++ String.join (pieces v) ++
          lines ((g.take n).1.map (·.toNat)) := by
        simp only [all, Generator.take_succ_of_some hg', List.map_cons, lines_cons, join_pieces,
          String.append_assoc]
      rw [hall, failureAfter_of_some hg']
      -- The line fits into the buffer, and the others follow; or it is refused.
      by_cases hline : (p.sink.held ++ String.join (pieces v)).utf8ByteSize ≤ Buffered.capacity
      · have hwrite := Buffered.writeAll_of_fits (pieces v) (utf8ByteSize_pieces v) hline
        rw [writeTerms_of_written hg hwrite]
        exact ih { p.tell (.term p.written v) with
          generator := g
          sink := { p.sink with held := p.sink.held ++ String.join (pieces v) }
          written := p.written + 1 } h hline
      · -- There is no room for this line, so writing fails here.
        rw [not_le] at hline
        have hfault :=
          Buffered.writeAll_of_not_fits h (pieces v) (utf8ByteSize_pieces v) hheld hline
        refine ⟨fun hle => ?_, fun _ => ?_⟩
        · rw [String.utf8ByteSize_append] at hle
          omega
        · rcases hw : Sink.writeAll p.sink (pieces v) with ⟨b, _ | fault⟩
          · rw [hw] at hfault
            cases hfault
          · rw [hw] at hfault
            cases hfault
            rw [writeTerms_of_fault hg hw]

/-! ## Runs -/

section

variable {cfg : Settings} {d : Device}

/-- Of zeros, the output has two bytes for each term that is asked for. -/
theorem Settings.utf8ByteSize_output_zeros (hseed : cfg.seed = ⟨0, 0⟩) :
    cfg.output.utf8ByteSize = 2 * cfg.terms.toNat := by
  rw [output, hseed, map_take_zeros, utf8ByteSize_lines_zeros]

/-- Whatever is asked for of a sequence other than that of zeros, there is room for it in the
    buffer. -/
theorem Settings.output_lt_capacity (hseed : cfg.seed ≠ ⟨0, 0⟩) :
    cfg.output.utf8ByteSize < Buffered.capacity := by
  obtain ⟨N, hN, hyields⟩ := Seed.exists_yields hseed
  have hle := utf8ByteSize_lines_le ((Generator.ofSeed cfg.seed).take cfg.terms.toNat).1
  rw [hyields] at hle
  rw [output, Buffered.capacity]
  omega

/-- How many of the terms that are asked for exist. -/
def Settings.existing (cfg : Settings) : ℕ :=
  ((Generator.ofSeed cfg.seed).take cfg.terms.toNat).1.length

theorem Settings.existing_zeros (hseed : cfg.seed = ⟨0, 0⟩) : cfg.existing = cfg.terms.toNat := by
  have hlength := congrArg List.length (map_take_zeros cfg.terms.toNat)
  rw [List.length_map, List.length_replicate] at hlength
  rw [existing, hseed, hlength]

/-- There is no output if and only if there is no term. -/
theorem Settings.output_eq_empty_iff : cfg.output = "" ↔ cfg.existing = 0 := by
  rw [output, existing, List.length_eq_zero_iff]
  constructor
  · intro h
    by_contra hne
    exact lines_ne_empty (by simpa using hne) h
  · intro h
    rw [h]
    rfl

theorem Settings.failure_of_eq (h : cfg.existing = cfg.terms.toNat) : cfg.failure = none :=
  if_pos h

/-- If terms are missing, the run fails at the first of them. -/
theorem Settings.failure_of_ne (h : cfg.existing ≠ cfg.terms.toNat) :
    ∃ o, cfg.failure = some (.produce cfg.existing o) := by
  refine ⟨⟨((Generator.ofSeed cfg.seed).take cfg.terms.toNat).2.produced⟩, ?_⟩
  rw [← Nat.zero_add cfg.existing]
  exact if_neg h

/-- A run whose output the buffer has no room for. -/
theorem run_of_not_fits (hd : d.isFull = true)
    (hfits : Buffered.capacity < cfg.output.utf8ByteSize) :
    (run cfg ({ device := d } : Buffered)).2 = some (.write .deviceFull) := by
  have hwrite := Progress.writeTerms_full cfg.terms.toNat (.start cfg ({ device := d } : Buffered))
    hd (Nat.zero_le _)
  rw [Progress.start_sink, String.empty_append] at hwrite
  exact (run_of_some (hwrite.2 hfits)).2

/-- A run whose output the buffer has room for: it fails where the terms end too early, or else
    where the buffer is flushed, unless there is nothing in it. -/
theorem run_of_fits (hd : d.isFull = true)
    (hfits : cfg.output.utf8ByteSize ≤ Buffered.capacity) :
    (run cfg ({ device := d } : Buffered)).2 =
      cfg.failure.or (if cfg.output = "" then none else some (.flush .deviceFull)) := by
  have hwrite := Progress.writeTerms_full cfg.terms.toNat (.start cfg ({ device := d } : Buffered))
    hd (Nat.zero_le _)
  rw [Progress.start_sink, String.empty_append] at hwrite
  obtain ⟨hsink, herror⟩ := hwrite.1 hfits
  rcases hf : cfg.failure with _ | e
  · obtain ⟨-, hflush⟩ := run_of_none (herror.trans hf)
    rw [hsink] at hflush
    refine hflush.trans ?_
    change (Buffered.drain _).2.map RunError.flush = _
    -- An empty buffer is flushed without the device.
    by_cases hempty : cfg.output = ""
    · rw [if_pos hempty, Buffered.drain_of_empty hempty]
      rfl
    · rw [if_neg hempty, Buffered.drain_of_full hd hempty]
      rfl
  · exact (run_of_some (herror.trans hf)).2

end

/-! ## The outcome -/

namespace Surroundings

/-- The run fails. Under the filter, the exit code says so, and so does the report behind the log,
    which begins with the given sentence. -/
def FailsWith (w : Surroundings) (c : Log.Choice) (message : String) : Prop :=
  ∃ e, w.outcomeOfRun.2 = some e ∧ e.message = message ∧ (w.outcomeUnder c).code = 1 ∧
    (w.outcomeUnder c).errors =
      w.logUnder c ++ ("Error: " ++ message ++ "\n\nCaused by:\n    " ++ e.cause ++ "\n")

variable {w : Surroundings} {c : Log.Choice}

/-- Whatever fails the run is told in the report, under every filter. -/
theorem failsWith_of_some {e : RunError} (h : w.outcomeOfRun.2 = some e) :
    w.FailsWith c e.message := by
  refine ⟨e, h, rfl, ?_, ?_⟩
  · rw [outcomeUnder_code, h]
    rfl
  · rw [outcomeUnder_errors, h, Option.elim_some, RunError.report]
    simp only [String.append_assoc]

/-- The run of the program on a device that takes nothing. -/
theorem outcomeOfRun_of_full (h : w.output.isFull = true)
    (hfits : w.settings.1.output.utf8ByteSize ≤ Buffered.capacity) :
    w.outcomeOfRun.2 = w.settings.1.failure.or
      (if w.settings.1.output = "" then none else some (.flush .deviceFull)) :=
  run_of_fits h hfits

/-- Where all terms exist and there is room for them, it depends on whether there are any. -/
theorem outcomeOfRun_of_full_eq (h : w.output.isFull = true)
    (hfits : w.settings.1.output.utf8ByteSize ≤ Buffered.capacity)
    (hall : w.settings.1.existing = w.settings.1.terms.toNat) :
    w.outcomeOfRun.2 =
      if w.settings.1.terms.toNat = 0 then none else some (.flush .deviceFull) := by
  rw [outcomeOfRun_of_full h hfits, Settings.failure_of_eq hall, Option.none_or, ← hall]
  simp only [Settings.output_eq_empty_iff]

/-- Where there is room for them, terms can be written. -/
theorem not_failsWith_write (h : w.output.isFull = true)
    (hfits : w.settings.1.output.utf8ByteSize ≤ Buffered.capacity) :
    ¬w.FailsWith c "failed to write term" := by
  rintro ⟨e, he, hmessage, -⟩
  rw [outcomeOfRun_of_full h hfits, Option.or_eq_some_iff] at he
  -- The run fails at a term that does not exist, or at the flush, but not at writing.
  rcases he with he | ⟨-, he⟩
  · obtain ⟨N, o, rfl, -⟩ := Settings.failure_eq_some he
    exact RunError.message_produce_ne N o hmessage
  · split_ifs at he
    cases he
    exact absurd hmessage (by decide)

/-- Where the buffer has room for all terms, the flush fails. -/
theorem failsWith_flush (h : w.output.isFull = true)
    (hfits : w.settings.1.output.utf8ByteSize ≤ Buffered.capacity)
    (hall : w.settings.1.existing = w.settings.1.terms.toNat) (ht : 1 ≤ w.settings.1.terms.toNat) :
    w.FailsWith c "failed to flush output" := by
  have hrun := outcomeOfRun_of_full_eq h hfits hall
  rw [if_neg (by omega)] at hrun
  exact failsWith_of_some hrun

end Surroundings

end OpeningTerms
