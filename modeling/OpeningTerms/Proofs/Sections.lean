import Mathlib.Algebra.Ring.Int.Defs
import OpeningTerms.Proofs.Paths

/-!
# The sections of a document

What the sections on the log and on the sequence have to say, and what they give
(`Document.IsLogSection`, `Document.IsSequenceSection`, `Document.filter?`, `Document.number?`).
The reader looks at the keys of a table one after the other and stops at the first mismatch. As no
key occurs twice, it succeeds where every entry is acceptable on its own (`exists_foldlM_iff`), and
what it has read under a key in the end is what the entry of this key says (`foldlM_field`).

* `exists_sequenceSettings_iff`, `exists_logSettings_iff`: the sections that are read;
* `sequenceSettings_eq`, `logSettings_filter`: what is read in them.
-/

namespace OpeningTerms.Toml

/-! ## What a document says -/

namespace Document

/-- A natural number of 64 bits. -/
def IsAmount : Document → Prop
  | .integer n => 0 ≤ n ∧ n < 2 ^ 64
  | _ => False

def IsText : Document → Prop
  | .text _ => True
  | _ => False

/-- The number that is given under a key of a table. -/
def number? (d : Document) (k : String) : Option ℤ :=
  match d.get? k with
  | some (.integer n) => some n
  | _ => none

/-- The text of a filter. -/
def text? : Document → Option String
  | .text s => some s
  | _ => none

/-- The filter that the section on the log gives: under its key, or as the first item. -/
def filter? : Document → Option String
  | .array (d :: _) => d.text?
  | d => (d.get? "filter").bind text?

/-- The keys of the section on the sequence. -/
def amountKeys : List String := ["terms", "previous", "current"]

theorem mem_amountKeys {k : String} :
    k ∈ amountKeys ↔ k = "terms" ∨ k = "previous" ∨ k = "current" := by simp [amountKeys]

/-- A section on the sequence: a date, or a table whose keys have numbers of 64 bits as far as
    they are given, and which has integers of at most 64 bits everywhere else. -/
def IsSequenceSection : Document → Prop
  | .moment => True
  | .table es => (∀ k ∈ amountKeys, ∀ v, es.lookup k = some v → v.IsAmount) ∧
      ∀ k ∉ amountKeys, ∀ path n, (table es).At (.key k :: path) (.integer n) →
        -2 ^ 63 ≤ n ∧ n < 2 ^ 64
  | _ => False

/-- A section on the log: a date, a table whose filter is a text if it is given, or an array that
    begins with a text. -/
def IsLogSection : Document → Prop
  | .moment => True
  | .table es => ∀ v, es.lookup "filter" = some v → v.IsText
  | .array (v :: _) => v.IsText
  | _ => False

end Document

/-! ## Entries one after the other -/

section

variable {σ γ : Type} {f : σ → String × Document → Except Mismatch σ}
  {es : List (String × Document)}

/-- All entries are read if each of them can be read. -/
theorem exists_foldlM_iff {p : String × Document → Prop}
    (hf : ∀ s e, (∃ s', f s e = .ok s') ↔ p e) (es : List (String × Document)) (s : σ) :
    (∃ s', es.foldlM f s = .ok s') ↔ ∀ e ∈ es, p e := by
  -- Whether an entry is read does not depend on the state, so the state may be any.
  induction es generalizing s with
  | nil => simp [pure, Except.pure]
  | cons e es ih =>
    rw [List.forall_mem_cons, List.foldlM_cons]
    constructor
    · rintro ⟨s', h⟩
      obtain ⟨s₁, h₁, h₂⟩ := bind_ok_iff.1 h
      exact ⟨(hf s e).1 ⟨s₁, h₁⟩, (ih s₁).1 ⟨s', h₂⟩⟩
    · rintro ⟨he, hes⟩
      obtain ⟨s₁, h₁⟩ := (hf s e).2 he
      obtain ⟨s', h₂⟩ := (ih s₁).2 hes
      exact ⟨s', bind_ok_iff.2 ⟨s₁, h₁, h₂⟩⟩

/-- If only the entries of the key `k` change a field, the field is in the end what the entry of
    this key says, or what it was before if there is none. -/
theorem foldlM_field (k : String) (get : σ → γ) (R : Document → γ → Prop)
    (hkey : ∀ s d s', f s (k, d) = .ok s' → R d (get s'))
    (hother : ∀ s e s', e.1 ≠ k → f s e = .ok s' → get s' = get s)
    (hes : (es.map Prod.fst).Nodup) {s s' : σ} (h : es.foldlM f s = .ok s') :
    (es.lookup k = none → get s' = get s) ∧ ∀ d, es.lookup k = some d → R d (get s') := by
  induction es generalizing s with
  | nil =>
    cases h
    exact ⟨fun _ => rfl, nofun⟩
  | cons e es ih =>
    obtain ⟨k', d'⟩ := e
    rw [List.map_cons, List.nodup_cons] at hes
    rw [List.foldlM_cons] at h
    obtain ⟨s₁, h₁, h₂⟩ := bind_ok_iff.1 h
    obtain ⟨hnone, hsome⟩ := ih hes.2 h₂
    by_cases hk : k' = k
    · subst hk
      -- The key does not come again, so the field stays as it is.
      have hlookup : es.lookup k' = none := by
        rw [List.lookup_eq_none_iff]
        intro p hp
        rw [bne_iff_ne]
        rintro rfl
        exact hes.1 (List.mem_map.2 ⟨p, hp, rfl⟩)
      rw [List.lookup_cons_self]
      refine ⟨nofun, ?_⟩
      rintro d ⟨⟩
      rw [hnone hlookup]
      exact hkey s d' s₁ h₁
    · rw [List.lookup_cons, beq_false_of_ne (Ne.symm hk)]
      exact ⟨fun hl => (hnone hl).trans (hother s (k', d') s₁ hk h₁), hsome⟩

end

section

variable {ε α β : Type} {x : Except ε α} {y : Except ε β} {f : α → β}

theorem exists_map_ok_iff : (∃ b, x.map f = .ok b) ↔ ∃ a, x = .ok a := by
  rcases x with e | a
  · simp [Except.map]
  · simp [Except.map]

/-- A choice between two readings succeeds if the one that is chosen does. -/
theorem exists_ite_ok_iff {p : Prop} [Decidable p] :
    (∃ b, (if p then x.map f else y) = .ok b) ↔ (p → ∃ a, x = .ok a) ∧ (¬p → ∃ b, y = .ok b) := by
  by_cases hp : p
  · simp [hp, exists_map_ok_iff]
  · simp [hp]

theorem exists_unit_ok_iff {x : Except ε Unit} : (∃ u, x = .ok u) ↔ x = .ok () :=
  ⟨fun ⟨_, h⟩ => h, fun h => ⟨(), h⟩⟩

end

/-! ## Values -/

section

variable {d : Document}

/-- At most 64 bits, as the bounds of signed and of unsigned words. -/
theorem isShort_iff {n : ℤ} : isShort n = true ↔ -2 ^ 63 ≤ n ∧ n < 2 ^ 64 := by
  simp only [isShort, Bool.and_eq_true, decide_eq_true_eq]
  omega

/-- A number of 64 bits is read as it is. -/
theorem amount_ok_iff {v : UInt64} : d.amount = .ok v ↔ d = .integer v.toNat := by
  rcases d with _ | n | _ | _ | _ | _ | _ | _
  case integer =>
    have hv := v.toNat_lt
    rw [Document.amount, Document.integer.injEq]
    by_cases hn : 0 ≤ n ∧ isShort n
    · -- As `n` has at most 64 bits, the word for it loses nothing.
      have hword : (UInt64.ofNat n.toNat).toNat = n.toNat :=
        UInt64.toNat_ofNat_of_lt' (by have := isShort_iff.1 hn.2; simp only [UInt64.size]; omega)
      rw [if_pos hn, Except.ok.injEq, ← UInt64.toNat_inj, hword]
      omega
    · rw [if_neg hn]
      have hne : n ≠ v.toNat := by
        rintro rfl
        exact hn ⟨by omega, isShort_iff.2 (by omega)⟩
      simp only [hne, iff_false]
      split <;> nofun
  all_goals simp [Document.amount]

/-- A value is read as an amount if it is a natural number of 64 bits. -/
theorem exists_amount_iff : (∃ v, d.amount = .ok v) ↔ d.IsAmount := by
  simp only [amount_ok_iff]
  constructor
  · rintro ⟨v, rfl⟩
    have := v.toNat_lt
    exact ⟨by omega, by omega⟩
  · intro h
    cases d with
    | integer n =>
      refine ⟨.ofNat n.toNat, ?_⟩
      obtain ⟨h₁, h₂⟩ := h
      rw [UInt64.toNat_ofNat_of_lt' (by simp only [UInt64.size]; omega), Int.toNat_of_nonneg h₁]
    | _ => exact h.elim

theorem filterText_ok_iff {s : String} : d.filterText = .ok s ↔ d = .text s := by
  cases d <;> simp [Document.filterText]

/-- A value is read as a filter if it is a text. -/
theorem exists_filterText_iff : (∃ s, d.filterText = .ok s) ↔ d.IsText := by
  cases d <;> simp [filterText_ok_iff, Document.IsText]

end

/-! ## The section on the sequence -/

section

variable {x : Document} {es : List (String × Document)}

theorem Document.IsAmount.everywhere_isShort (hx : x.IsAmount) : x.Everywhere IsShort := by
  cases x with
  | integer n =>
    rw [everywhere_leaf_iff (d := .integer n) trivial]
    exact isShort_iff.2 ⟨by have := hx.1; omega, hx.2⟩
  | _ => exact hx.elim

/-- An entry is read if it is an amount under `terms`, and without wide numbers under any other key.
-/
theorem exists_termsEntry_iff (t : Option UInt64) (e : String × Document) :
    (∃ t', termsEntry t e = .ok t') ↔
      (e.1 = "terms" → e.2.IsAmount) ∧ (e.1 ≠ "terms" → e.2.Everywhere Document.IsShort) := by
  rw [termsEntry, exists_ite_ok_iff, exists_map_ok_iff, exists_unit_ok_iff, exists_amount_iff,
    keep_eq_ok_iff]

/-- A half of the seed is the number under its key, or the default if there is none. -/
theorem keptHalf_ok_iff {k : String} {default v : UInt64} :
    keptHalf k default es = .ok v ↔
      (es.lookup k = none → v = default) ∧ ∀ d, es.lookup k = some d → d = .integer v.toNat := by
  rw [keptHalf]
  rcases es.lookup k with _ | d
  · simp [eq_comm]
  · simp [amount_ok_iff]

/-- A half of the seed is read unless there is something else than an amount under its key. -/
theorem exists_keptHalf_iff (k : String) (default : UInt64) :
    (∃ v, keptHalf k default es = .ok v) ↔ ∀ d, es.lookup k = some d → d.IsAmount := by
  rw [keptHalf]
  rcases es.lookup k with _ | d
  · simp
  · simp [exists_amount_iff]

/-- A table is read in three parts: the number of terms and the halves of the seed. -/
theorem sequenceSettings_table_ok_iff {q : SequenceSettings} :
    (Document.table es).sequenceSettings = .ok q ↔
      es.foldlM termsEntry none = .ok q.terms ∧
        keptHalf "current" Seed.standard.current es = .ok q.seed.current ∧
        keptHalf "previous" Seed.standard.previous es = .ok q.seed.previous := by
  rw [Document.sequenceSettings]
  constructor
  · intro h
    obtain ⟨t, ht, h⟩ := bind_ok_iff.1 h
    obtain ⟨c, hc, h⟩ := bind_ok_iff.1 h
    obtain ⟨p, hp, h⟩ := bind_ok_iff.1 h
    cases h
    exact ⟨ht, hc, hp⟩
  · rintro ⟨ht, hc, hp⟩
    exact bind_ok_iff.2 ⟨_, ht, bind_ok_iff.2 ⟨_, hc, bind_ok_iff.2 ⟨_, hp, rfl⟩⟩⟩

/-- The entries of a section on the sequence: the number of terms is read at once, the other
    values are kept, and of these the halves of the seed are read in the end. -/
theorem exists_sequenceSettings_table_iff :
    (∃ q, (Document.table es).sequenceSettings = .ok q) ↔
      (∀ e ∈ es, (e.1 = "terms" → e.2.IsAmount) ∧
        (e.1 ≠ "terms" → e.2.Everywhere Document.IsShort)) ∧
      (∀ v, es.lookup "current" = some v → v.IsAmount) ∧
      ∀ v, es.lookup "previous" = some v → v.IsAmount := by
  rw [← exists_foldlM_iff exists_termsEntry_iff es none,
    ← exists_keptHalf_iff "current" Seed.standard.current,
    ← exists_keptHalf_iff "previous" Seed.standard.previous]
  -- The three parts are read one after the other, and none of them needs another.
  simp only [sequenceSettings_table_ok_iff]
  constructor
  · rintro ⟨q, ht, hc, hp⟩
    exact ⟨⟨_, ht⟩, ⟨_, hc⟩, ⟨_, hp⟩⟩
  · rintro ⟨⟨t, ht⟩, ⟨c, hc⟩, ⟨p, hp⟩⟩
    exact ⟨⟨t, ⟨p, c⟩⟩, ht, hc, hp⟩

/-- Where keys are distinct, what is under a key is the entry with this key. -/
theorem forall_lookup_iff (hes : (es.map Prod.fst).Nodup) {k : String} {P : Document → Prop} :
    (∀ v, es.lookup k = some v → P v) ↔ ∀ e ∈ es, e.1 = k → P e.2 := by
  simp only [lookup_eq_some_iff_mem hes]
  constructor
  · rintro h ⟨k', v⟩ hv rfl
    exact h v hv
  · intro h v hv
    exact h (k, v) hv rfl

/-- A table is a section on the sequence, with all numbers in some range, if each of its entries
    is what its key asks for. -/
theorem isSequenceSection_table_iff (hes : (es.map Prod.fst).Nodup) :
    ((Document.table es).IsSequenceSection ∧ (Document.table es).Everywhere Document.InRange) ↔
      ∀ e ∈ es, (e.1 ∈ Document.amountKeys → e.2.IsAmount) ∧
        (e.1 ∉ Document.amountKeys → e.2.Everywhere Document.IsShort) := by
  rw [Document.IsSequenceSection, Document.everywhere_table_iff]
  constructor
  · rintro ⟨⟨hamount, hshort⟩, -, hrange⟩ e he
    refine ⟨fun hk => ?_, fun hk => ?_⟩
    · exact (forall_lookup_iff hes).1 (hamount e.1 hk) e he rfl
    · exact Document.everywhere_isShort_iff.2 ⟨hrange e he, fun path n hn =>
        isShort_iff.2 (hshort e.1 hk path n (.key he hn))⟩
  · intro h
    refine ⟨⟨fun k hk => ?_, fun k hk path n hn => ?_⟩, trivial, fun e he => ?_⟩
    · rw [forall_lookup_iff hes]
      rintro e he rfl
      exact (h e he).1 hk
    · obtain ⟨_, c, ⟨⟩, hc, hn⟩ := Document.at_key_iff.1 hn
      exact isShort_iff.1 ((Document.everywhere_isShort_iff.1 ((h _ hc).2 hk)).2 path n hn)
    · by_cases hk : e.1 ∈ Document.amountKeys
      · exact (Document.everywhere_isShort_iff.1 ((h e he).1 hk).everywhere_isShort).1
      · exact (Document.everywhere_isShort_iff.1 ((h e he).2 hk)).1

/-- The section on the sequence is read if it is one, and no number in it is out of every range. -/
theorem exists_sequenceSettings_iff (hx : x.Distinct) :
    (∃ q, x.sequenceSettings = .ok q) ↔
      x.IsSequenceSection ∧ x.Everywhere Document.InRange := by
  cases x with
  | table es =>
    rw [Document.distinct_table_iff] at hx
    rw [exists_sequenceSettings_table_iff, isSequenceSection_table_iff hx.1,
      forall_lookup_iff hx.1, forall_lookup_iff hx.1]
    constructor
    · rintro ⟨h, hcurrent, hprevious⟩ e he
      rw [Document.mem_amountKeys]
      refine ⟨?_, fun hk => (h e he).2 fun ht => hk (.inl ht)⟩
      rintro (hk | hk | hk)
      · exact (h e he).1 hk
      · exact hprevious e he hk
      · exact hcurrent e he hk
    · intro h
      have hamount (e : String × Document) (he : e ∈ es) := fun hk =>
        (h e he).1 (Document.mem_amountKeys.2 hk)
      refine ⟨fun e he => ⟨fun hk => hamount e he (.inl hk), fun _ => ?_⟩,
        fun e he hk => hamount e he (.inr (.inr hk)), fun e he hk => hamount e he (.inr (.inl hk))⟩
      -- The halves of the seed are kept before they are read as numbers.
      by_cases hk : e.1 ∈ Document.amountKeys
      · exact ((h e he).1 hk).everywhere_isShort
      · exact (h e he).2 hk
  | moment =>
    simp [Document.sequenceSettings, Document.IsSequenceSection,
      Document.everywhere_leaf_iff (d := .moment) trivial, Document.InRange]
  | _ => simp [Document.sequenceSettings, Document.IsSequenceSection]

theorem termsEntry_terms (t : Option UInt64) (d : Document) (t' : Option UInt64)
    (h : termsEntry t ("terms", d) = .ok t') :
    ∃ v : UInt64, d = .integer v.toNat ∧ t' = some v := by
  obtain ⟨v, hv, rfl⟩ := map_ok_iff.1 h
  exact ⟨v, amount_ok_iff.1 hv, rfl⟩

theorem termsEntry_other (t : Option UInt64) (e : String × Document) (t' : Option UInt64)
    (hk : e.1 ≠ "terms") (h : termsEntry t e = .ok t') : t' = t := by
  rw [termsEntry, if_neg hk] at h
  obtain ⟨_, -, rfl⟩ := map_ok_iff.1 h
  rfl

/-- A half of the seed is what the table says, or the default. -/
theorem keptHalf_eq {k : String} {default v : UInt64} (h : keptHalf k default es = .ok v) :
    (v.toNat : ℤ) = ((Document.table es).number? k).getD default.toNat := by
  obtain ⟨hnone, hsome⟩ := keptHalf_ok_iff.1 h
  rw [Document.number?, Document.get?]
  rcases hl : es.lookup k with _ | d
  · rw [hnone hl]
    rfl
  · rw [hsome d hl]
    rfl

/-- What the section on the sequence says under its keys is what is read. -/
theorem sequenceSettings_eq (hx : x.Distinct) {q : SequenceSettings}
    (h : x.sequenceSettings = .ok q) :
    q.terms.map (fun v => (v.toNat : ℤ)) = x.number? "terms" ∧
      (q.seed.previous.toNat : ℤ) = (x.number? "previous").getD 0 ∧
      (q.seed.current.toNat : ℤ) = (x.number? "current").getD 1 := by
  cases x with
  | table es =>
    rw [Document.distinct_table_iff] at hx
    obtain ⟨ht, hc, hp⟩ := sequenceSettings_table_ok_iff.1 h
    refine ⟨?_, keptHalf_eq hp, keptHalf_eq hc⟩
    obtain ⟨hnone, hsome⟩ := foldlM_field "terms" id (fun d t =>
      ∃ v : UInt64, d = .integer v.toNat ∧ t = some v) termsEntry_terms termsEntry_other hx.1 ht
    rw [Document.number?, Document.get?]
    rcases hl : es.lookup "terms" with _ | d
    · rw [show q.terms = none from hnone hl]
      rfl
    · obtain ⟨v, rfl, hv⟩ := hsome d hl
      rw [show q.terms = some v from hv]
      rfl
  | moment =>
    cases h
    exact ⟨rfl, rfl, rfl⟩
  | _ => cases h

end

/-! ## The section on the log -/

section

variable {x : Document} {es : List (String × Document)} {l : LogSettings}

/-- The places in a section on the log that are not looked at: those behind the first item of an
    array. -/
def IsUnread (path : List Step) : Prop := ∃ i rest, path = .item (i + 1) :: rest

/-- An entry is read if it is a text under `filter`, and without overflows under any other key. -/
theorem exists_filterEntry_iff (t : Option String) (e : String × Document) :
    (∃ t', filterEntry t e = .ok t') ↔
      (e.1 = "filter" → e.2.IsText) ∧ (e.1 ≠ "filter" → e.2.Everywhere Document.InRange) := by
  rw [filterEntry, exists_ite_ok_iff, exists_map_ok_iff, exists_unit_ok_iff,
    exists_filterText_iff, ignore_eq_ok_iff]

theorem Document.IsText.everywhere_inRange (hx : x.IsText) : x.Everywhere InRange := by
  cases x with
  | text s => exact (everywhere_leaf_iff (d := .text s) trivial).2 trivial
  | _ => exact hx.elim

/-- In a table, everything is looked at. -/
theorem unread_table_iff :
    (∀ path kind, (Document.table es).At path (.overflow kind) → IsUnread path) ↔
      (Document.table es).Everywhere Document.InRange := by
  rw [Document.everywhere_inRange_iff]
  constructor
  · intro h path kind hx
    obtain ⟨i, rest, rfl⟩ := h path kind hx
    obtain ⟨_, _, ⟨⟩, _⟩ := Document.at_item_iff.1 hx
  · intro h path kind hx
    exact absurd hx (h path kind)

/-- In an array that begins with a text, only what is behind the text can be out of range. -/
theorem unread_array {d : Document} {ds : List Document} (hd : d.IsText) (path : List Step)
    (kind : NumberKind) (hx : (Document.array (d :: ds)).At path (.overflow kind)) :
    IsUnread path := by
  rcases hx with _ | _ | ⟨hc, hx⟩
  rename_i i c path
  -- The first item is a text, and no overflow; any other item is not looked at.
  rcases i with _ | i
  · cases hc
    exact absurd hx (Document.everywhere_inRange_iff.1 hd.everywhere_inRange path kind)
  · exact ⟨i, path, rfl⟩

/-- The section on the log is read if it is one, and no overflow stands where it is looked at. -/
theorem exists_logSettings_iff (hx : x.Distinct) :
    (∃ l, x.logSettings = .ok l) ↔
      x.IsLogSection ∧ ∀ path kind, x.At path (.overflow kind) → IsUnread path := by
  cases x with
  | table es =>
    rw [Document.distinct_table_iff] at hx
    rw [unread_table_iff, Document.everywhere_table_iff, Document.logSettings, exists_map_ok_iff,
      exists_foldlM_iff exists_filterEntry_iff, Document.IsLogSection, forall_lookup_iff hx.1]
    constructor
    · intro h
      refine ⟨fun e he => (h e he).1, trivial, fun e he => ?_⟩
      by_cases hk : e.1 = "filter"
      · exact ((h e he).1 hk).everywhere_inRange
      · exact (h e he).2 hk
    · rintro ⟨htext, -, hrange⟩ e he
      exact ⟨htext e he, fun _ => hrange e he⟩
  | array ds =>
    -- Of an array, the first item is all that is read.
    rcases ds with _ | ⟨d, ds⟩
    · simp [Document.logSettings, Document.IsLogSection]
    · rw [Document.logSettings, exists_map_ok_iff, exists_filterText_iff, Document.IsLogSection]
      exact ⟨fun hd => ⟨hd, unread_array hd⟩, And.left⟩
  | moment =>
    simp [Document.logSettings, Document.IsLogSection,
      Document.IsLeaf.at_iff (d := .moment) trivial]
  | _ => simp [Document.logSettings, Document.IsLogSection]

theorem filterEntry_filter (t : Option String) (d : Document) (t' : Option String)
    (h : filterEntry t ("filter", d) = .ok t') : t' = d.text? := by
  obtain ⟨s, hs, rfl⟩ := map_ok_iff.1 h
  rw [filterText_ok_iff.1 hs]
  rfl

theorem filterEntry_other (t : Option String) (e : String × Document) (t' : Option String)
    (hk : e.1 ≠ "filter") (h : filterEntry t e = .ok t') : t' = t := by
  rw [filterEntry, if_neg hk] at h
  obtain ⟨_, -, rfl⟩ := map_ok_iff.1 h
  rfl

/-- The text that the section on the log gives is what is read. -/
theorem logSettings_filter (hx : x.Distinct) (h : x.logSettings = .ok l) :
    l.filter = x.filter? := by
  cases x with
  | table es =>
    rw [Document.distinct_table_iff] at hx
    obtain ⟨t, ht, rfl⟩ := map_ok_iff.1 h
    obtain ⟨hnone, hsome⟩ := foldlM_field "filter" id (fun d t => t = d.text?)
      filterEntry_filter filterEntry_other hx.1 ht
    rw [Document.filter?, Document.get?]
    rcases hl : es.lookup "filter" with _ | d
    · exact hnone hl
    · exact hsome d hl
    · rintro _ _ ⟨⟩
  | array ds =>
    rcases ds with _ | ⟨d, ds⟩
    · cases h
    · obtain ⟨s, hs, rfl⟩ := map_ok_iff.1 h
      rw [filterText_ok_iff.1 hs]
      rfl
  | moment =>
    cases h
    rfl
  | _ => cases h

end

end OpeningTerms.Toml
