import Mathlib.Order.Bounds.Basic
import Mathlib.Tactic.IntervalCases
import OpeningTerms.Proofs.Pulling
import OpeningTerms.Run
import OpeningTerms.Sink.Limited

/-!
# The output of a run

A sink that never fails takes whatever is written to it, so what a run writes to such a sink
depends on the sequence only: these are the terms as far as they are produced, each in decimal
and with a line end (`writeTerms_spec`). All of them are produced exactly when the term one
place after the last is a word; else the run fails at the first that is not.

* `run_spec`: whether a run succeeds, and what it has written and reported by then.
-/

namespace OpeningTerms

/-! ## Sinks that never fail -/

namespace Sink

variable {σ : Type} [Sink σ] {Ready : σ → Prop} {text : σ → String} {flushes : σ → ℕ}

/-- In the states that are `Ready`, all that is written is appended to the text. -/
def Appends (Ready : σ → Prop) (text : σ → String) : Prop :=
  ∀ w, Ready w → ∀ p, ∃ w', write w p = (w', none) ∧ Ready w' ∧ text w' = text w ++ p

/-- In the states that are `Ready`, nothing fails: all that is written is appended to the
    text, and every flush is counted. -/
structure Reliable (Ready : σ → Prop) (text : σ → String) (flushes : σ → ℕ) : Prop where
  write_eq : ∀ w, Ready w → ∀ p, ∃ w', write w p = (w', none) ∧ Ready w' ∧
    text w' = text w ++ p ∧ flushes w' = flushes w
  flush_eq : ∀ w, Ready w → ∃ w', flush w = (w', none) ∧ Ready w' ∧
    text w' = text w ∧ flushes w' = flushes w + 1

/-- To write to a reliable sink leaves its count of flushes alone. -/
theorem Reliable.appends (h : Reliable Ready text flushes) (n : ℕ) :
    Appends (fun w => Ready w ∧ flushes w = n) text := by
  rintro w ⟨hw, rfl⟩ p
  obtain ⟨w', h₁, h₂, h₃, h₄⟩ := h.write_eq w hw p
  exact ⟨w', h₁, ⟨h₂, h₄⟩, h₃⟩

theorem Appends.writeAll (h : Appends Ready text) (ps : List String) {w : σ} (hw : Ready w) :
    ∃ w', Sink.writeAll w ps = (w', none) ∧ Ready w' ∧ text w' = text w ++ String.join ps := by
  induction ps generalizing w with
  | nil => exact ⟨w, rfl, hw, by simp⟩
  | cons p ps ih =>
    obtain ⟨w₁, h₁, hw₁, ht₁⟩ := h w hw p
    obtain ⟨w₂, h₂, hw₂, ht₂⟩ := ih hw₁
    refine ⟨w₂, ?_, hw₂, ?_⟩
    · rw [Sink.writeAll, h₁]
      exact h₂
    · rw [ht₂, ht₁, String.join_cons, String.append_assoc]

end Sink

/-- A sink without a limit that lets itself be flushed never fails. -/
theorem LimitedSink.reliable :
    Sink.Reliable (fun w : LimitedSink => w.limit = none ∧ w.failsToFlush = false)
      (·.text) (·.flushes) where
  write_eq := by
    rintro w ⟨hl, hf⟩ p
    exact ⟨{ w with text := w.text ++ p }, by simp [Sink.write, write, hl], ⟨hl, hf⟩, rfl, rfl⟩
  flush_eq := by
    rintro w ⟨hl, hf⟩
    exact ⟨{ w with flushes := w.flushes + 1 }, by simp [Sink.flush, flush, hf], ⟨hl, hf⟩, rfl, rfl⟩

/-! ## Terms -/

/-- Numbers in decimal, one a line. -/
def lines (ns : List ℕ) : String := String.join (ns.map fun n => n.repr ++ "\n")

theorem lines_cons (n : ℕ) (ns : List ℕ) : lines (n :: ns) = n.repr ++ "\n" ++ lines ns := by
  simp [lines]

/-- Lines of numbers in a row are the lines of all of them. -/
theorem lines_append (ns ms : List ℕ) : lines (ns ++ ms) = lines ns ++ lines ms := by
  simp [lines, String.join_append]

namespace Progress

/-- The pieces of a line are a number and the end of the line. -/
theorem join_pieces (v : UInt64) : String.join (pieces v) = v.toNat.repr ++ "\n" := by
  simp [pieces]

variable {σ : Type}

/-- Where a run starts. -/
def start (cfg : Settings) (w : σ) : Progress σ := { generator := .ofSeed cfg.seed, sink := w }

@[simp]
theorem start_generator (cfg : Settings) (w : σ) :
    (start cfg w).generator = .ofSeed cfg.seed := rfl

@[simp]
theorem start_sink (cfg : Settings) (w : σ) : (start cfg w).sink = w := rfl

@[simp]
theorem start_written (cfg : Settings) (w : σ) : (start cfg w).written = 0 := rfl

variable [Sink σ]

section

variable {n : ℕ} {p : Progress σ} {v : UInt64} {g : Generator}

/-- Where a term does not exist, writing ends. -/
theorem writeTerms_of_error {o : Overflow} (hg : p.generator.next = .error o) :
    writeTerms (n + 1) p = (p, some (.produce p.written o)) := by
  rw [writeTerms, hg]

/-- Where the sink does not take a term, writing ends after this term has been told. -/
theorem writeTerms_of_fault {w : σ} {fault : SinkFault} (hg : p.generator.next = .ok (v, g))
    (hw : Sink.writeAll p.sink (pieces v) = (w, some fault)) :
    writeTerms (n + 1) p =
      ({ p.tell (.term p.written v) with generator := g, sink := w }, some (.write fault)) := by
  rw [writeTerms, hg]
  simp only [tell, hw]

/-- Where the sink takes a term, writing goes on with the next one. -/
theorem writeTerms_of_written {w : σ} (hg : p.generator.next = .ok (v, g))
    (hw : Sink.writeAll p.sink (pieces v) = (w, none)) :
    writeTerms (n + 1) p = writeTerms n { p.tell (.term p.written v) with
      generator := g, sink := w, written := p.written + 1 } := by
  rw [writeTerms, hg]
  simp only [tell, hw]

end

theorem finish_sink (terms : UInt64) (p : Progress σ) :
    (p.finish terms).1.sink = (Sink.flush p.sink).1 := by
  rw [finish]
  rcases Sink.flush p.sink with ⟨w, _ | fault⟩
  · rfl
  · rfl

theorem finish_error (terms : UInt64) (p : Progress σ) :
    (p.finish terms).2 = (Sink.flush p.sink).2.map .flush := by
  rw [finish]
  rcases Sink.flush p.sink with ⟨w, _ | fault⟩
  · rfl
  · rfl

/-- The failure of a run that asks for `n` terms, if the values `vs` are all that there are
    from `g` on: it is at the term after them. -/
def failureAfter (n written : ℕ) (r : List UInt64 × Generator) : Option RunError :=
  if r.1.length = n then none else some (.produce (written + r.1.length) ⟨r.2.produced⟩)

theorem failureAfter_of_none {g : Generator} (hg : g.next? = none) (n written : ℕ) :
    failureAfter (n + 1) written (g.take (n + 1)) = some (.produce written ⟨g.produced⟩) := by
  simp [failureAfter, Generator.take_of_none hg]

/-- Behind a term that exists, the others are counted on. -/
theorem failureAfter_of_some {g g' : Generator} {v : UInt64} (hg : g.next? = some (v, g'))
    (n written : ℕ) :
    failureAfter (n + 1) written (g.take (n + 1)) = failureAfter n (written + 1) (g'.take n) := by
  simp [failureAfter, Generator.take_succ_of_some hg, Nat.add_assoc, Nat.add_comm 1]

/-- What is written to a sink that never fails are the lines of the terms that there are. -/
theorem writeTerms_spec {Ready : σ → Prop} {text : σ → String} (h : Sink.Appends Ready text)
    (n : ℕ) (p : Progress σ) (hp : Ready p.sink) :
    (writeTerms n p).2 = failureAfter n p.written (p.generator.take n) ∧
      Ready (writeTerms n p).1.sink ∧
      text (writeTerms n p).1.sink =
        text p.sink ++ lines ((p.generator.take n).1.map (·.toNat)) := by
  induction n generalizing p with
  | zero => exact ⟨rfl, hp, by simp [writeTerms, lines]⟩
  | succ n ih =>
    cases hg : p.generator.next with
    | error o =>
      -- The first term is missing: nothing is written.
      obtain ⟨hnone, rfl⟩ := Generator.next_eq_error_iff.1 hg
      have hg' := Generator.next?_eq_none_iff.2 hnone
      rw [failureAfter_of_none hg', writeTerms_of_error hg]
      exact ⟨rfl, hp, by simp [Generator.take_of_none hg', lines]⟩
    | ok r =>
      obtain ⟨v, g⟩ := r
      have hg' := Generator.next?_eq_some_iff.2 hg
      obtain ⟨w, hw, hr, ht⟩ := h.writeAll (pieces v) hp
      obtain ⟨hfailure, hready, htext⟩ := ih { p.tell (.term p.written v) with
        generator := g, sink := w, written := p.written + 1 } hr
      rw [failureAfter_of_some hg', writeTerms_of_written hg hw]
      refine ⟨hfailure, hready, ?_⟩
      rw [htext, ht, join_pieces, Generator.take_succ_of_some hg', List.map_cons, lines_cons,
        String.append_assoc]

end Progress

/-! ## Runs -/

/-- That a term does not exist is not said in the words for one that was not taken. -/
theorem RunError.message_produce_ne (N : ℕ) (o : Overflow) :
    (produce N o).message ≠ "failed to write term" := by
  change "failed to produce term " ++ N.repr ≠ "failed to write term"
  simp [← String.toList_inj]

/-- What there is to take from the start of a sequence are its terms, as numbers. -/
theorem map_take_ofSeed (s : Seed) (n : ℕ) :
    ((Generator.ofSeed s).take n).1.map (·.toNat) =
      (List.range ((Generator.ofSeed s).take n).1.length).map s.term := by
  rw [(Generator.isAt_ofSeed s).map_take, List.range_eq_range']

/-- Where not all terms exist, those that do end before the first whose second successor is
    not a word. -/
theorem isLeast_length_take_ofSeed {s : Seed} {n : ℕ}
    (hn : ((Generator.ofSeed s).take n).1.length < n) :
    IsLeast {m | 2 ^ 64 ≤ s.term (m + 2)} ((Generator.ofSeed s).take n).1.length := by
  have hat := (Generator.isAt_ofSeed s).take n
  rw [Nat.zero_add] at hat
  refine ⟨hat.next?_eq_none_iff.1 (Generator.next?_take_eq_none hn), fun m hm => ?_⟩
  exact le_of_not_gt fun hlt => absurd (hat.term_lt (by omega)) (not_lt.2 hm)

section

variable {σ : Type} [Sink σ]

/-- A run is over where writing the terms fails. -/
theorem run_of_some {cfg : Settings} {w : σ} {e : RunError}
    (h : (Progress.writeTerms cfg.terms.toNat (.start cfg w)).2 = some e) :
    (run cfg w).1.sink = (Progress.writeTerms cfg.terms.toNat (.start cfg w)).1.sink ∧
      (run cfg w).2 = some e := by
  rw [run, ← Progress.start]
  generalize Progress.writeTerms cfg.terms.toNat (.start cfg w) = r at h ⊢
  obtain ⟨p, _ | e'⟩ := r
  · cases h
  · exact ⟨rfl, h⟩

/-- A run flushes the sink where writing the terms does not fail. -/
theorem run_of_none {cfg : Settings} {w : σ}
    (h : (Progress.writeTerms cfg.terms.toNat (.start cfg w)).2 = none) :
    let f := Sink.flush (Progress.writeTerms cfg.terms.toNat (.start cfg w)).1.sink
    (run cfg w).1.sink = f.1 ∧ (run cfg w).2 = f.2.map .flush := by
  rw [run, ← Progress.start]
  generalize Progress.writeTerms cfg.terms.toNat (.start cfg w) = r at h ⊢
  obtain ⟨p, _ | e⟩ := r
  · exact ⟨p.finish_sink cfg.terms, p.finish_error cfg.terms⟩
  · cases h

variable {Ready : σ → Prop} {text : σ → String} {flushes : σ → ℕ}

/-- A run on a sink that never fails. If the term one place after the last is a word, it
    writes all terms and flushes the sink once. Else it fails at the first term whose second
    successor is not a word, and counts as many terms before: these it has written, and it
    has not flushed the sink. -/
theorem run_spec (h : Sink.Reliable Ready text flushes) (cfg : Settings) (w : σ) (hw : Ready w) :
    let t := cfg.terms.toNat
    let G := cfg.seed.term
    let r := run cfg w
    (G (t + 1) < 2 ^ 64 → r.2 = none ∧
      text r.1.sink = text w ++ lines ((List.range t).map G) ∧
      flushes r.1.sink = flushes w + 1) ∧
    (2 ^ 64 ≤ G (t + 1) → ∃ N, IsLeast {n | 2 ^ 64 ≤ G (n + 2)} N ∧ N < t ∧
      (∃ e o, r.2 = some e ∧ e.message = "failed to produce term " ++ N.repr ∧
        e.overflow? = some o ∧ o.produced.toNat = N) ∧
      text r.1.sink = text w ++ lines ((List.range N).map G) ∧
      flushes r.1.sink = flushes w) := by
  intro t G r
  have hlen := (Generator.isAt_ofSeed cfg.seed).length_take_eq_iff t
  rw [Nat.zero_add] at hlen
  obtain ⟨hfail, ⟨hready, hflushes⟩, htext⟩ :=
    Progress.writeTerms_spec (h.appends (flushes w)) t (.start cfg w) ⟨hw, rfl⟩
  simp only [Progress.start_generator, Progress.start_sink, Progress.start_written,
    map_take_ofSeed] at hfail htext
  refine ⟨fun hG => ?_, fun hG => ?_⟩
  · -- All terms exist, so that the sink is flushed.
    rw [Progress.failureAfter, if_pos (hlen.2 hG)] at hfail
    rw [hlen.2 hG] at htext
    obtain ⟨w', h₁, -, h₃, h₄⟩ := h.flush_eq _ hready
    obtain ⟨hsink, herror⟩ := run_of_none hfail
    rw [h₁] at hsink herror
    exact ⟨herror, by rw [hsink, h₃, htext], by rw [hsink, h₄, hflushes]⟩
  · -- Fewer terms exist, and the number of them is where the run fails.
    have hne : ((Generator.ofSeed cfg.seed).take t).1.length ≠ t := fun hl =>
      absurd (hlen.1 hl) (not_lt.2 hG)
    have hlt := lt_of_le_of_ne (Generator.length_take_le _ t) hne
    rw [Progress.failureAfter, if_neg hne, Nat.zero_add] at hfail
    have hat := (Generator.isAt_ofSeed cfg.seed).take t
    rw [Nat.zero_add] at hat
    obtain ⟨hsink, herror⟩ := run_of_some hfail
    refine ⟨_, isLeast_length_take_ofSeed hlt, hlt, ⟨_, _, herror, rfl, rfl, ?_⟩,
      by rw [hsink, htext], by rw [hsink, hflushes]⟩
    exact hat.produced_toNat (hlt.trans cfg.terms.toNat_lt)

end

/-- From a descending seed near the end of the words there are two terms, of which the second
    is smaller; the third would still be a word, but is not given. -/
theorem run_spec_descending :
    let cfg : Settings := { sequence := some {
      terms := some 5, seed := ⟨0x8000000000000000, 0x2000000000000000⟩ } }
    let w : LimitedSink := {}
    (w.limit = none ∧ w.failsToFlush = false) ∧ 2 ^ 64 ≤ cfg.seed.term (cfg.terms.toNat + 1) ∧
      (run cfg w).1.sink.text = lines [9223372036854775808, 2305843009213693952] ∧
      (run cfg w).1.sink.flushes = 0 := by
  intro cfg w
  have hG : 2 ^ 64 ≤ cfg.seed.term (cfg.terms.toNat + 1) := by decide
  obtain ⟨N, hN, -, -, htext, hflushes⟩ :=
    (run_spec LimitedSink.reliable cfg w ⟨rfl, rfl⟩).2 hG
  have h₁ : N ≤ 2 := hN.2 (show 2 ^ 64 ≤ cfg.seed.term 4 by decide)
  have h₂ : 2 ^ 64 ≤ cfg.seed.term (N + 2) := hN.1
  obtain rfl : N = 2 := by
    interval_cases N
    · exact absurd h₂ (by decide)
    · exact absurd h₂ (by decide)
    · rfl
  have hterms : (List.range 2).map cfg.seed.term = [9223372036854775808, 2305843009213693952] := by
    decide
  rw [hterms] at htext
  exact ⟨⟨rfl, rfl⟩, hG, htext.trans String.empty_append, hflushes⟩

end OpeningTerms
