import OpeningTerms.Proofs.Output

/-!
# Runs on limited sinks

What is written to a sink comes in pieces, and the limit may fall anywhere in one. All that
matters is the text that the pieces make up: a sink goes from text to text as if it were
written at once (`LimitedSink.after`), taking all of it, or else what its limit lets it take
and failing. This holds of the pieces of a term (`LimitedSink.writeAll_eq`) and of all terms
(`Progress.writeTerms_eq`). A term that does not exist is noticed only where the sink has taken
all terms before it.

* `run_limited`: a run on a limited sink compared to the same run on a sink without a limit.
-/

namespace OpeningTerms

/-! ## ASCII text -/

/-- In ASCII text, every character takes one byte. -/
def IsAscii (s : String) : Prop := ∀ c ∈ s.toList, c.utf8Size = 1

namespace IsAscii

variable {s t : String}

theorem empty : IsAscii "" := by simp [IsAscii]

theorem append (hs : IsAscii s) (ht : IsAscii t) : IsAscii (s ++ t) := by
  intro c hc
  rw [String.toList_append, List.mem_append] at hc
  exact hc.elim (hs c) (ht c)

/-- Pieces of ASCII are put together to a text of ASCII. -/
theorem join {ps : List String} (h : ∀ p ∈ ps, IsAscii p) : IsAscii (String.join ps) := by
  intro c hc
  rw [String.toList_join, List.mem_flatMap] at hc
  obtain ⟨p, hp, hc⟩ := hc
  exact h p hp c hc

/-- ASCII has as many bytes as characters. -/
theorem utf8ByteSize_eq (h : IsAscii s) : s.utf8ByteSize = s.toList.length := by
  suffices ∀ l : List Char, (∀ c ∈ l, c.utf8Size = 1) → (String.ofList l).utf8ByteSize = l.length by
    simpa using this s.toList h
  intro l hl
  induction l with
  | nil => rfl
  | cons c l ih =>
    rw [← List.singleton_append, String.ofList_append, String.utf8ByteSize_append,
      ← String.singleton_eq_ofList, String.utf8ByteSize_singleton, hl c List.mem_cons_self,
      ih fun d hd => hl d (List.mem_cons_of_mem _ hd), List.length_append, List.length_singleton]

/-- A number is written in ASCII. -/
theorem repr (n : ℕ) : IsAscii n.repr := by
  intro c hc
  rw [Nat.toList_repr] at hc
  have hdigit := Char.isDigit_iff_toNat.1 (Nat.isDigit_of_mem_toDigits (by omega) (by omega) hc)
  exact Char.utf8Size_eq_one_iff.2 (UInt32.le_iff_toNat_le.2 (hdigit.2.trans (by decide)))

theorem pieces (v : UInt64) : ∀ p ∈ Progress.pieces v, IsAscii p := by
  intro p hp
  rw [Progress.pieces, List.mem_pair] at hp
  rcases hp with rfl | rfl
  · exact repr v.toNat
  · simp [IsAscii, Char.utf8Size]

theorem lines (ns : List ℕ) : IsAscii (lines ns) := by
  refine join fun p hp => ?_
  obtain ⟨n, -, rfl⟩ := List.mem_map.1 hp
  exact (repr n).append (by simp [IsAscii, Char.utf8Size])

/-- The first characters of a text are its first bytes. -/
theorem toByteArray_take (h : IsAscii s) (n : ℕ) :
    (String.ofList (s.toList.take n)).toByteArray =
      s.toByteArray.extract 0 (min n s.utf8ByteSize) := by
  have htake : IsAscii (String.ofList (s.toList.take n)) := by
    intro c hc
    rw [String.toList_ofList] at hc
    exact h c (List.mem_of_mem_take hc)
  -- The bytes are those of the first characters, and then those of the others.
  have hsplit : s.toByteArray = (String.ofList (s.toList.take n)).toByteArray ++
      (String.ofList (s.toList.drop n)).toByteArray := by
    rw [← String.toByteArray_append, ← String.ofList_append, List.take_append_drop,
      String.ofList_toList]
  rw [hsplit, ByteArray.extract_append_eq_left]
  rw [String.size_toByteArray, htake.utf8ByteSize_eq, h.utf8ByteSize_eq, String.toList_ofList,
    List.length_take]

end IsAscii

/-! ## Limited sinks -/

namespace LimitedSink

variable (w : LimitedSink) {s t : String}

/-- Whether a text is longer than the limit. -/
def Exceeds (s : String) : Prop := ∃ l ∈ w.limit, l < s.utf8ByteSize

instance (s : String) : Decidable (w.Exceeds s) :=
  inferInstanceAs (Decidable (∃ l ∈ w.limit, l < s.utf8ByteSize))

/-- The beginning of a text up to the limit. -/
def cut (s : String) : String :=
  match w.limit with
  | none => s
  | some l => .ofList (s.toList.take l)

/-- A sink that holds as much of a text as it takes, and how it failed if that is not all. -/
def after (s : String) : LimitedSink × Option SinkFault :=
  if w.Exceeds s then ({ w with text := w.cut s }, some w.fault) else ({ w with text := s }, none)

variable {w}

/-- Without a limit, no text is too long. -/
theorem not_exceeds_of_none (h : w.limit = none) : ¬w.Exceeds s := by simp [Exceeds, h]

theorem exceeds_iff_of_some {l : ℕ} (h : w.limit = some l) :
    w.Exceeds s ↔ l < s.utf8ByteSize := by simp [Exceeds, h]

/-- Of a text that is too long, the beginning is taken, and the sink fails. -/
theorem after_of_exceeds (h : w.Exceeds s) :
    w.after s = ({ w with text := w.cut s }, some w.fault) := if_pos h

/-- Any other text is taken whole. -/
theorem after_of_not_exceeds (h : ¬w.Exceeds s) : w.after s = ({ w with text := s }, none) :=
  if_neg h

theorem Exceeds.append (h : w.Exceeds s) (t : String) : w.Exceeds (s ++ t) := by
  obtain ⟨l, hl, hlt⟩ := h
  exact ⟨l, hl, by rw [String.utf8ByteSize_append]; omega⟩

/-- Beyond the limit nothing is taken any more. -/
theorem after_append (hs : IsAscii s) (h : w.Exceeds s) (t : String) :
    w.after (s ++ t) = w.after s := by
  obtain ⟨l, hl, hlt⟩ := id h
  rw [hs.utf8ByteSize_eq] at hlt
  have hcut : w.cut (s ++ t) = w.cut s := by
    simp only [cut, Option.mem_def.1 hl, String.toList_append,
      List.take_append_of_le_length hlt.le]
  rw [after_of_exceeds h, after_of_exceeds (h.append t), hcut]

/-- To write a piece is to have the text so far with the piece at its end, up to the limit. -/
theorem write_eq (hw : IsAscii w.text) (h : ¬w.Exceeds w.text) (p : String) :
    Sink.write w p = w.after (w.text ++ p) := by
  cases hl : w.limit with
  | none =>
    rw [after_of_not_exceeds (not_exceeds_of_none hl)]
    simp [Sink.write, write, hl]
  | some l =>
    -- What the sink holds is within its limit, so the limit falls into the piece or behind it.
    rw [exceeds_iff_of_some hl, not_lt] at h
    have hx := exceeds_iff_of_some (s := w.text ++ p) hl
    rw [String.utf8ByteSize_append] at hx
    by_cases hp : p.utf8ByteSize ≤ l - w.text.utf8ByteSize
    · rw [after_of_not_exceeds (by rw [hx]; omega)]
      simp [Sink.write, write, hl, hp]
    · have hcut : w.cut (w.text ++ p) =
          w.text ++ .ofList (p.toList.take (l - w.text.utf8ByteSize)) := by
        rw [hw.utf8ByteSize_eq] at h ⊢
        simp only [cut, hl, String.toList_append, List.take_append, List.take_of_length_le h,
          String.ofList_append, String.ofList_toList]
      rw [after_of_exceeds (by rw [hx]; omega), hcut]
      simp [Sink.write, write, hl, hp]

/-- To write pieces one by one is to write them as one. -/
theorem writeAll_eq (ps : List String) (hps : ∀ p ∈ ps, IsAscii p) (hw : IsAscii w.text)
    (h : ¬w.Exceeds w.text) : Sink.writeAll w ps = w.after (w.text ++ String.join ps) := by
  induction ps generalizing w with
  | nil =>
    rw [String.join_nil, String.append_empty, after_of_not_exceeds h]
    rfl
  | cons p ps ih =>
    have hp : IsAscii (w.text ++ p) := hw.append (hps p List.mem_cons_self)
    rw [Sink.writeAll, write_eq hw h, String.join_cons, ← String.append_assoc]
    by_cases hx : w.Exceeds (w.text ++ p)
    · -- The limit falls into this piece, and the others are not written.
      rw [after_append hp hx, after_of_exceeds hx]
    · rw [after_of_not_exceeds hx]
      exact ih (fun q hq => hps q (List.mem_cons_of_mem _ hq)) hp hx

end LimitedSink

/-! ## Terms -/

namespace Progress

/-- A sink takes the lines of the terms that there are as it takes one text. If it takes all of
    it, writing fails where the terms end too early. -/
theorem writeTerms_eq (n : ℕ) (p : Progress LimitedSink) (hp : IsAscii p.sink.text)
    (h : ¬p.sink.Exceeds p.sink.text) :
    let out := p.sink.after (p.sink.text ++ lines ((p.generator.take n).1.map (·.toNat)))
    (writeTerms n p).1.sink = out.1 ∧
      (writeTerms n p).2 =
        (out.2.map RunError.write).or (failureAfter n p.written (p.generator.take n)) := by
  intro out
  induction n generalizing p with
  | zero =>
    have hout : out = (p.sink, none) := by
      simp [out, lines, LimitedSink.after_of_not_exceeds h]
    rw [hout]
    exact ⟨rfl, rfl⟩
  | succ n ih =>
    cases hg : p.generator.next with
    | error o =>
      obtain ⟨hnone, rfl⟩ := Generator.next_eq_error_iff.1 hg
      have hg' := Generator.next?_eq_none_iff.2 hnone
      have hout : out = (p.sink, none) := by
        simp [out, lines, Generator.take_of_none hg', LimitedSink.after_of_not_exceeds h]
      rw [hout, failureAfter_of_none hg', writeTerms_of_error hg]
      exact ⟨rfl, rfl⟩
    | ok r =>
      obtain ⟨v, g⟩ := r
      have hg' := Generator.next?_eq_some_iff.2 hg
      have hline := hp.append (IsAscii.join (IsAscii.pieces v))
      have hout : out = p.sink.after (p.sink.text ++ String.join (pieces v) ++
          lines ((g.take n).1.map (·.toNat))) := by
        simp only [out, Generator.take_succ_of_some hg', List.map_cons, lines_cons, join_pieces,
          String.append_assoc]
      have hwrite := LimitedSink.writeAll_eq (pieces v) (IsAscii.pieces v) hp h
      rw [hout, failureAfter_of_some hg']
      by_cases hx : p.sink.Exceeds (p.sink.text ++ String.join (pieces v))
      · -- The limit falls into this line: whether the terms after it exist does not matter.
        rw [LimitedSink.after_of_exceeds hx] at hwrite
        rw [LimitedSink.after_append hline hx, LimitedSink.after_of_exceeds hx,
          writeTerms_of_fault hg hwrite]
        exact ⟨rfl, rfl⟩
      · rw [LimitedSink.after_of_not_exceeds hx] at hwrite
        rw [writeTerms_of_written hg hwrite]
        exact ih _ hline hx

end Progress

/-! ## Runs -/

/-- The lines of those terms that exist among the terms that the settings ask for. -/
def Settings.output (cfg : Settings) : String :=
  lines (((Generator.ofSeed cfg.seed).take cfg.terms.toNat).1.map (·.toNat))

/-- The failure at the first term that does not exist among those that the settings ask for. -/
def Settings.failure (cfg : Settings) : Option RunError :=
  Progress.failureAfter cfg.terms.toNat 0 ((Generator.ofSeed cfg.seed).take cfg.terms.toNat)

/-- The output is ASCII, so bytes and characters need not be told apart. -/
theorem Settings.isAscii_output (cfg : Settings) : IsAscii cfg.output := .lines _

/-- A run fails at a term if not all terms exist, and gives the number of this term as the
    number of values produced before. -/
theorem Settings.failure_eq_some {cfg : Settings} {e : RunError} (h : cfg.failure = some e) :
    ∃ N o, e = .produce N o ∧ o.produced.toNat = N := by
  rw [failure, Progress.failureAfter] at h
  split at h
  · cases h
  · cases h
    refine ⟨_, _, rfl, ?_⟩
    rw [Nat.zero_add]
    have hat := (Generator.isAt_ofSeed cfg.seed).take cfg.terms.toNat
    rw [Nat.zero_add] at hat
    exact hat.produced_toNat ((Generator.length_take_le _ _).trans_lt cfg.terms.toNat_lt)

section

variable {cfg : Settings} {w : LimitedSink}

/-- A run on an empty sink, up to where the sink would be flushed. -/
theorem writeTerms_start (cfg : Settings) (hw : w.text = "") :
    let r := Progress.writeTerms cfg.terms.toNat (.start cfg w)
    r.1.sink = (w.after cfg.output).1 ∧
      r.2 = ((w.after cfg.output).2.map RunError.write).or cfg.failure := by
  have h := Progress.writeTerms_eq cfg.terms.toNat (.start cfg w)
    (by simp [hw, IsAscii.empty]) (by simp [hw, LimitedSink.Exceeds])
  rw [Progress.start_sink, hw, String.empty_append] at h
  exact h

/-- A run whose output goes beyond the limit of the sink. -/
theorem run_of_exceeds (hw : w.text = "") (h : w.Exceeds cfg.output) :
    (run cfg w).1.sink = { w with text := w.cut cfg.output } ∧
      (run cfg w).2 = some (.write w.fault) := by
  obtain ⟨hsink, herror⟩ := writeTerms_start cfg hw
  rw [LimitedSink.after_of_exceeds h] at hsink herror
  obtain ⟨h₁, h₂⟩ := run_of_some herror
  exact ⟨h₁.trans hsink, h₂⟩

/-- A run that asks for too many terms, the sink having taken those that exist. -/
theorem run_of_failure (hw : w.text = "") (h : ¬w.Exceeds cfg.output) {e : RunError}
    (he : cfg.failure = some e) :
    (run cfg w).1.sink = { w with text := cfg.output } ∧ (run cfg w).2 = some e := by
  obtain ⟨hsink, herror⟩ := writeTerms_start cfg hw
  rw [LimitedSink.after_of_not_exceeds h] at hsink herror
  obtain ⟨h₁, h₂⟩ := run_of_some (herror.trans he)
  exact ⟨h₁.trans hsink, h₂⟩

/-- A run whose terms all exist, the sink having taken them. -/
theorem run_of_no_failure (hw : w.text = "") (h : ¬w.Exceeds cfg.output)
    (he : cfg.failure = none) :
    (run cfg w).1.sink = { w with text := cfg.output, flushes := w.flushes + 1 } ∧
      (run cfg w).2 = if w.failsToFlush then some (.flush .refused) else none := by
  obtain ⟨hsink, herror⟩ := writeTerms_start cfg hw
  rw [LimitedSink.after_of_not_exceeds h] at hsink herror
  obtain ⟨h₁, h₂⟩ := run_of_none (herror.trans he)
  rw [hsink] at h₁ h₂
  refine ⟨h₁, h₂.trans ?_⟩
  cases w.failsToFlush
  · simp [Sink.flush, LimitedSink.flush]
  · simp [Sink.flush, LimitedSink.flush]

end

/-- A run on a sink without a limit that lets itself be flushed. -/
theorem run_of_no_limit (cfg : Settings) :
    (run cfg ({} : LimitedSink)).1.sink.text = cfg.output ∧
      (run cfg ({} : LimitedSink)).2 = cfg.failure := by
  have hnot : ¬LimitedSink.Exceeds {} cfg.output := LimitedSink.not_exceeds_of_none rfl
  rcases hf : cfg.failure with _ | e
  · obtain ⟨hsink, herror⟩ := run_of_no_failure rfl hnot hf
    exact ⟨congrArg (·.text) hsink, herror⟩
  · obtain ⟨hsink, herror⟩ := run_of_failure rfl hnot hf
    exact ⟨congrArg (·.text) hsink, herror⟩

/-- A run on a sink with a limit, compared to the same run on a sink without. What the sink has
    taken in the end is what the other has, up to the limit. If that is not all, writing fails,
    whether or not all terms exist; else the run fails as the other does; else the sink is
    flushed once, and the run fails if the sink does not let itself be flushed. -/
theorem run_limited (cfg : Settings) (l : ℕ) (stalls failsToFlush : Bool) :
    let u := run cfg ({} : LimitedSink)
    let all := u.1.sink.text
    let w : LimitedSink :=
      { limit := some l, fault := if stalls then .stalled else .full, failsToFlush }
    let r := run cfg w
    r.1.sink.text.toUTF8 = all.toUTF8.extract 0 (min l all.utf8ByteSize) ∧
      (l < all.utf8ByteSize → r.1.sink.flushes = 0 ∧ ∃ e, r.2 = some e ∧
        e.message = "failed to write term" ∧
        e.cause = (if stalls then "failed to write whole buffer" else "sink is full") ∧
        e.overflow? = none) ∧
      (all.utf8ByteSize ≤ l → ∀ e, u.2 = some e → r.1.sink.flushes = 0 ∧ r.2 = some e ∧
        ∃ (n : ℕ) (o : Overflow), e.message = "failed to produce term " ++ n.repr ∧
          e.overflow? = some o) ∧
      (all.utf8ByteSize ≤ l → u.2 = none → r.1.sink.flushes = 1 ∧
        (failsToFlush = false → r.2 = none) ∧
        (failsToFlush = true → ∃ e, r.2 = some e ∧ e.message = "failed to flush output")) := by
  intro u all w r
  obtain ⟨hall, hu⟩ : all = cfg.output ∧ u.2 = cfg.failure := run_of_no_limit cfg
  rw [hall, hu, String.toUTF8_eq_toByteArray, String.toUTF8_eq_toByteArray]
  have hx : w.Exceeds cfg.output ↔ l < cfg.output.utf8ByteSize :=
    LimitedSink.exceeds_iff_of_some rfl
  -- A sink without a limit takes the whole output, so `l` is compared to the length of that.
  rcases lt_or_ge l cfg.output.utf8ByteSize with hlt | hle
  · obtain ⟨hsink, herror⟩ := run_of_exceeds rfl (hx.2 hlt)
    refine ⟨?_, fun _ => ⟨congrArg (·.flushes) hsink, _, herror, rfl, ?_, rfl⟩,
      fun h => absurd hlt (not_lt.2 h), fun h => absurd hlt (not_lt.2 h)⟩
    · rw [show r.1.sink.text = w.cut cfg.output from congrArg (·.text) hsink]
      exact cfg.isAscii_output.toByteArray_take l
    · cases stalls
      · rfl
      · rfl
  · have hnot : ¬w.Exceeds cfg.output := fun h => absurd (hx.1 h) (not_lt.2 hle)
    rw [min_eq_right hle, ← String.size_toByteArray, ByteArray.extract_zero_size]
    rcases hf : cfg.failure with _ | e
    · obtain ⟨hsink, herror⟩ := run_of_no_failure rfl hnot hf
      refine ⟨congrArg (·.text.toByteArray) hsink, fun h => absurd h (not_lt.2 hle),
        fun _ e he => absurd he.symm (Option.some_ne_none e), fun _ _ => ?_⟩
      refine ⟨congrArg (·.flushes) hsink, fun h => ?_, fun h => ?_⟩
      · exact herror.trans (if_neg (by simp [w, h]))
      · exact ⟨_, herror.trans (if_pos h), rfl⟩
    · obtain ⟨hsink, herror⟩ := run_of_failure rfl hnot hf
      obtain ⟨n, o, rfl, -⟩ := Settings.failure_eq_some hf
      refine ⟨congrArg (·.text.toByteArray) hsink, fun h => absurd h (not_lt.2 hle), ?_,
        fun _ h => absurd h (Option.some_ne_none _)⟩
      rintro - e he
      cases he
      exact ⟨congrArg (·.flushes) hsink, herror, n, o, rfl, rfl⟩

end OpeningTerms
