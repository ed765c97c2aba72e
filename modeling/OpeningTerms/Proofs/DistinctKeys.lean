import Mathlib.Data.Int.Notation
import Mathlib.Data.List.Nodup
import Mathlib.Data.Option.Basic
import OpeningTerms.Proofs.Paths

/-!
# Distinct keys

In a well-formed document the keys of every table are distinct, at every depth
(`read?_distinct`). The reader has two ways to make a table: from the lines of the document, and
from the members between braces. Both change tables under construction by `alter`, which gives a
key a new value in its place or adds it at the end, so no key ever occurs twice
(`map_fst_alter`). A value that is written as a word has no tables in it (`wordValue?_isLeaf`).
-/

namespace OpeningTerms.Toml

/-! ## Tables under construction -/

/-- What entries under construction stand for, one by one. -/
theorem documentEntries_eq_map (es : Entries) :
    documentEntries es = es.map fun e => (e.1, e.2.toDocument) := by
  induction es with
  | nil => rfl
  | cons e es ih => rw [documentEntries, ih, List.map_cons]

/-- An array of tables stands for the tables in it. -/
theorem documentItems_eq_map (ess : List Entries) :
    documentItems ess = ess.map fun es => .table (documentEntries es) := by
  induction ess with
  | nil => rfl
  | cons es ess ih => rw [documentItems, ih, List.map_cons]

/-- A table under construction that stands for one with distinct keys at every depth. -/
def IsDistinct (es : Entries) : Prop := (Document.table (documentEntries es)).Distinct

/-- The keys of the table itself are distinct, and those of the tables in it are. -/
theorem isDistinct_iff {es : Entries} :
    IsDistinct es ↔ (es.map Prod.fst).Nodup ∧ ∀ e ∈ es, e.2.toDocument.Distinct := by
  rw [IsDistinct, Document.distinct_table_iff, documentEntries_eq_map, List.map_map,
    List.forall_mem_map]
  rfl

theorem isDistinct_nil : IsDistinct [] := by simp [isDistinct_iff]

variable {es es' : Entries} {k : String} {path : List String} {origin : Origin} {d : Document}

section

variable {f : Option Node → Option Node}

/-- A key keeps its place, or else is added at the end. -/
theorem map_fst_alter (h : alter k f es = some es') :
    es'.map Prod.fst =
      if k ∈ es.map Prod.fst then es.map Prod.fst else es.map Prod.fst ++ [k] := by
  induction es generalizing es' with
  | nil =>
    rw [alter, Option.map_eq_some_iff] at h
    obtain ⟨n, -, rfl⟩ := h
    rfl
  | cons e es ih =>
    obtain ⟨k', n⟩ := e
    rw [alter] at h
    -- The key is this one, or it is looked for further on.
    by_cases hk : k' = k
    · rw [if_pos hk, Option.map_eq_some_iff] at h
      obtain ⟨n', -, rfl⟩ := h
      simp [hk]
    · rw [if_neg hk, Option.map_eq_some_iff] at h
      obtain ⟨es'', hes, rfl⟩ := h
      rw [List.map_cons, ih hes]
      by_cases hmem : k ∈ es.map Prod.fst
      · simp [hmem]
      · simp [hmem, Ne.symm hk]

/-- What stands under a key afterwards is what was there, or what the change has made of it. -/
theorem forall_mem_alter {P : Node → Prop} (h : alter k f es = some es')
    (hf : ∀ old n, (∀ o ∈ old, P o) → f old = some n → P n) (hes : ∀ e ∈ es, P e.2) :
    ∀ e ∈ es', P e.2 := by
  induction es generalizing es' with
  | nil =>
    rw [alter, Option.map_eq_some_iff] at h
    obtain ⟨n, hn, rfl⟩ := h
    rw [List.forall_mem_singleton]
    exact hf none n (fun o ho => by cases ho) hn
  | cons e es ih =>
    obtain ⟨k', n⟩ := e
    rw [List.forall_mem_cons] at hes
    rw [alter] at h
    split at h
    · rw [Option.map_eq_some_iff] at h
      obtain ⟨n', hn, rfl⟩ := h
      refine List.forall_mem_cons.2 ⟨hf (some n) n' ?_ hn, hes.2⟩
      rintro o ⟨⟩
      exact hes.1
    · rw [Option.map_eq_some_iff] at h
      obtain ⟨es'', hes'', rfl⟩ := h
      exact List.forall_mem_cons.2 ⟨hes.1, ih hes'' hes.2⟩

/-- A change under one key keeps the keys distinct if what it puts there has distinct keys. -/
theorem IsDistinct.alter (hes : IsDistinct es) (h : alter k f es = some es')
    (hf : ∀ old n, (∀ o ∈ old, o.toDocument.Distinct) → f old = some n → n.toDocument.Distinct) :
    IsDistinct es' := by
  rw [isDistinct_iff] at hes ⊢
  refine ⟨?_, forall_mem_alter h hf hes.2⟩
  rw [map_fst_alter h]
  -- A key that is there stays the only one; one that is not is added once.
  split
  · exact hes.1
  · rename_i hk
    rw [← List.concat_eq_append]
    exact hes.1.concat hk

end

/-- An array of tables has distinct keys if each of its tables has. -/
theorem distinct_tables_iff {before : List Entries} {last : Entries} :
    (Node.tables before last).toDocument.Distinct ↔
      (∀ es ∈ before, IsDistinct es) ∧ IsDistinct last := by
  rw [Node.toDocument, Document.distinct_array_iff, List.forall_mem_append,
    List.forall_mem_singleton, documentItems_eq_map, List.forall_mem_map]
  rfl

theorem distinct_node_table_iff : (Node.table origin es).toDocument.Distinct ↔ IsDistinct es := by
  rw [Node.toDocument, IsDistinct]

/-- A change of a table at the end of a path. -/
theorem IsDistinct.within {dotted : Bool} {f : Origin → Entries → Option Entries}
    (hes : IsDistinct es) (h : within dotted f path origin es = some es')
    (hf : ∀ origin es es', IsDistinct es → f origin es = some es' → IsDistinct es') :
    IsDistinct es' := by
  induction path generalizing origin es es' with
  | nil => exact hf origin es es' hes h
  | cons k path ih =>
    refine hes.alter h fun old n hold hn => ?_
    -- The table that the path goes on in is a new one, or part of the old value.
    rcases old with _ | (value | ⟨origin', inner⟩ | ⟨before, last⟩)
    · obtain ⟨inner', hinner, rfl⟩ := Option.map_eq_some_iff.1 hn
      exact distinct_node_table_iff.2 (ih isDistinct_nil hinner)
    · cases hn
    · have hinner := distinct_node_table_iff.1 (hold _ rfl)
      simp only at hn
      split at hn
      · cases hn
      · obtain ⟨inner', hinner', rfl⟩ := Option.map_eq_some_iff.1 hn
        exact distinct_node_table_iff.2 (ih hinner hinner')
    · have hparts := distinct_tables_iff.1 (hold _ rfl)
      obtain ⟨last', hlast, rfl⟩ := Option.map_eq_some_iff.1 hn
      exact distinct_tables_iff.2 ⟨hparts.1, ih hparts.2 hlast⟩

/-- A value under a path is refused where the key is taken, so no key comes twice. -/
theorem IsDistinct.assign (hes : IsDistinct es) (hd : d.Distinct)
    (h : assign path d origin es = some es') : IsDistinct es' := by
  obtain ⟨⟨path', k⟩, -, h⟩ := Option.bind_eq_some_iff.1 h
  refine hes.within h fun origin es es' hes h => ?_
  -- An entry that would cross a table that is closed for it is refused.
  split at h
  · cases h
  · refine hes.alter h fun old n _ hn => ?_
    split at hn
    · cases hn
    · cases hn
      rw [Node.toDocument]
      exact hd

/-- The header of a table adds its key or finds it; it never adds it again. -/
theorem IsDistinct.openTable (hes : IsDistinct es) (h : openTable path es = some es') :
    IsDistinct es' := by
  obtain ⟨⟨path', k⟩, -, h⟩ := Option.bind_eq_some_iff.1 h
  refine hes.within h fun _ es es' hes h => hes.alter h fun old n hold hn => ?_
  -- A header opens a new table, or one that only the headers of other tables have made.
  rcases old with _ | (value | ⟨_ | _ | _, inner⟩ | ⟨before, last⟩)
  · cases hn
    exact distinct_node_table_iff.2 isDistinct_nil
  · cases hn
  · cases hn
  · cases hn
    exact distinct_node_table_iff.2 (distinct_node_table_iff.1 (hold _ rfl))
  · cases hn
  · cases hn

/-- The header of an item adds an empty table below a key. -/
theorem IsDistinct.openItem (hes : IsDistinct es) (h : openItem path es = some es') :
    IsDistinct es' := by
  obtain ⟨⟨path', k⟩, -, h⟩ := Option.bind_eq_some_iff.1 h
  refine hes.within h fun _ es es' hes h => hes.alter h fun old n hold hn => ?_
  -- There is nothing yet, or there are the items of earlier headers; else it is refused.
  rcases old with _ | (value | ⟨_, inner⟩ | ⟨before, last⟩)
  · cases hn
    exact distinct_tables_iff.2 ⟨fun _ h => absurd h List.not_mem_nil, isDistinct_nil⟩
  · cases hn
  · cases hn
  · cases hn
    obtain ⟨hbefore, hlast⟩ := distinct_tables_iff.1 (hold _ rfl)
    refine distinct_tables_iff.2 ⟨?_, isDistinct_nil⟩
    rw [List.forall_mem_append, List.forall_mem_singleton]
    exact ⟨hbefore, hlast⟩

/-! ## Values that are written as words -/

theorem ofInteger_isLeaf (n : ℤ) : (Document.ofInteger n).IsLeaf := by
  rw [Document.ofInteger]
  split
  · trivial
  · trivial

theorem ofMagnitude_isLeaf (negative : Bool) (x : Option Decimal.Magnitude) :
    (Document.ofMagnitude negative x).IsLeaf := by
  rcases x with _ | x
  · trivial
  · trivial

/-- Digits that are read in any base make a number or an overflow. -/
theorem integerOf_isLeaf (base : ℕ) (negative : Bool) (ds : List Char) :
    (integerOf base negative ds).IsLeaf := by
  rw [integerOf]
  split
  · exact ofInteger_isLeaf _
  · trivial

theorem decimalInteger?_isLeaf {s : List Char} (h : decimalInteger? s = some d) : d.IsLeaf := by
  grind [decimalInteger?, integerOf_isLeaf]

theorem markedInteger?_isLeaf {base : ℕ} {s : List Char} (h : markedInteger? base s = some d) :
    d.IsLeaf := by
  grind [markedInteger?, integerOf_isLeaf]

/-- A number with a fraction or an exponent is a float, or too large for one. -/
theorem fractional?_isLeaf {s : List Char} (h : fractional? s = some d) : d.IsLeaf := by
  unfold fractional? at h
  simp only [Option.bind_eq_bind, Option.bind_eq_some_iff] at h
  obtain ⟨-, -, -, -, h⟩ := h
  -- There is a fraction or there is none; either way, a magnitude is what is left in the end.
  split at h
  · split at h
    · cases h
    · obtain ⟨_, -, h⟩ := Option.bind_eq_some_iff.1 h
      obtain ⟨e, -, he⟩ := Option.bind_eq_some_iff.1 h
      cases he
      exact ofMagnitude_isLeaf _ _
  · obtain ⟨_, -, h⟩ := Option.bind_eq_some_iff.1 h
    obtain ⟨e, -, he⟩ := Option.bind_eq_some_iff.1 h
    cases he
    exact ofMagnitude_isLeaf _ _

theorem moment?_isLeaf {s : List Char} (h : moment? s = some d) : d.IsLeaf := by
  grind [moment?, Document.IsLeaf]

theorem numeral?_isLeaf {s : List Char} (h : numeral? s = some d) : d.IsLeaf := by
  unfold numeral? at h
  grind [decimalInteger?_isLeaf, moment?_isLeaf, fractional?_isLeaf]

/-- A value that is written as a word has neither items nor entries. -/
theorem wordValue?_isLeaf {s : List Char} (h : wordValue? s = some d) : d.IsLeaf := by
  unfold wordValue? at h
  grind [markedInteger?_isLeaf, numeral?_isLeaf, Document.IsLeaf]

/-! ## Values -/

/-- What holds at the start of a fold and is kept by every step holds at its end. -/
theorem foldlM_keeps {σ α : Type} {f : σ → α → Option σ} {I : σ → Prop} {as : List α}
    (hf : ∀ a ∈ as, ∀ s s', I s → f s a = some s' → I s') {s s' : σ} (hs : I s)
    (h : as.foldlM f s = some s') : I s' := by
  induction as generalizing s with
  | nil =>
    cases h
    exact hs
  | cons a as ih =>
    rw [List.foldlM_cons] at h
    obtain ⟨s₁, h₁, h⟩ := Option.bind_eq_some_iff.1 h
    rw [List.forall_mem_cons] at hf
    exact ih hf.2 (hf.1 s s₁ hs h₁) h

/-- A table between braces is put together from its members by `assign`. -/
theorem inlineTable_distinct {ms : List (List String × Document)} (hms : ∀ m ∈ ms, m.2.Distinct)
    (h : inlineTable ms = some d) : d.Distinct := by
  obtain ⟨es, hes, he⟩ := Option.bind_eq_some_iff.1 h
  cases he
  exact foldlM_keeps (I := IsDistinct) (fun m hm _ _ hs h => hs.assign (hms m hm) h)
    isDistinct_nil hes

section

variable {value : List Token → Option (Document × List Token)}

/-- Every value that is read has distinct keys. -/
def ReadsDistinct (value : List Token → Option (Document × List Token)) : Prop :=
  ∀ ts d rest, value ts = some (d, rest) → d.Distinct

/-- If the values of items have distinct keys, so has an array of them. -/
theorem ReadsDistinct.items (hv : ReadsDistinct value) {n : ℕ} {ts rest : List Token}
    {ds : List Document} (h : items value n ts = some (ds, rest)) : ∀ d ∈ ds, d.Distinct := by
  induction n generalizing ts ds with
  | zero => cases h
  | succ n ih =>
    rw [Toml.items] at h
    -- The list is closed at once, or a value comes first.
    split at h
    · cases h
      exact fun _ h => absurd h List.not_mem_nil
    · obtain ⟨⟨d, ts'⟩, hd, h⟩ := Option.bind_eq_some_iff.1 h
      have hd := hv _ _ _ hd
      simp only at h
      split at h
      · cases h
        exact List.forall_mem_singleton.2 hd
      · obtain ⟨⟨ds', _⟩, hds, he⟩ := Option.map_eq_some_iff.1 h
        cases he
        exact List.forall_mem_cons.2 ⟨hd, ih hds⟩
      · cases h

/-- The value of a member has distinct keys as every value has. -/
theorem ReadsDistinct.keyValue (hv : ReadsDistinct value) {skip : List Token → List Token}
    {ts rest : List Token} {m : List String × Document}
    (h : keyValue skip value ts = some (m, rest)) : m.2.Distinct := by
  obtain ⟨⟨path, ts'⟩, -, h⟩ := Option.bind_eq_some_iff.1 h
  simp only at h
  split at h
  · obtain ⟨⟨d, ts''⟩, hd, he⟩ := Option.bind_eq_some_iff.1 h
    cases he
    exact hv _ _ _ hd
  · cases h

/-- The values between braces have distinct keys, each of them. -/
theorem ReadsDistinct.members (hv : ReadsDistinct value) {n : ℕ} {ts rest : List Token}
    {ms : List (List String × Document)} (h : members value n ts = some (ms, rest)) :
    ∀ m ∈ ms, m.2.Distinct := by
  induction n generalizing ts ms with
  | zero => cases h
  | succ n ih =>
    rw [Toml.members] at h
    split at h
    · cases h
      exact fun _ h => absurd h List.not_mem_nil
    · obtain ⟨⟨m, ts'⟩, hm, h⟩ := Option.bind_eq_some_iff.1 h
      have hm := hv.keyValue hm
      simp only at h
      split at h
      · cases h
        exact List.forall_mem_singleton.2 hm
      · obtain ⟨⟨ms', _⟩, hms, he⟩ := Option.map_eq_some_iff.1 h
        cases he
        exact List.forall_mem_cons.2 ⟨hm, ih hms⟩
      · cases h

end

theorem word_distinct {ts rest : List Token} (h : word ts = some (d, rest)) : d.Distinct := by
  obtain ⟨d', hd, he⟩ := Option.map_eq_some_iff.1 h
  cases he
  exact (wordValue?_isLeaf hd).distinct

/-- A value has distinct keys at every depth, by induction on how deep it may nest. -/
theorem value_readsDistinct (depth : ℕ) : ReadsDistinct (value depth) := by
  induction depth using Nat.strongRecOn with
  | ind depth ih =>
    intro ts d rest h
    unfold value at h
    split at h
    · cases h
      exact Document.IsLeaf.distinct trivial
    · -- Between brackets, what is read nests one level less.
      obtain ⟨⟨ds, _⟩, hds, he⟩ := Option.map_eq_some_iff.1 h
      cases he
      exact Document.distinct_array_iff.2 ((ih _ (Nat.lt_succ_self _)).items hds)
    · obtain ⟨⟨ms, ts'⟩, hms, h⟩ := Option.bind_eq_some_iff.1 h
      obtain ⟨d', hd, he⟩ := Option.bind_eq_some_iff.1 h
      cases he
      exact inlineTable_distinct ((ih _ (Nat.lt_succ_self _)).members hms) hd
    · exact word_distinct h

/-! ## Documents -/

/-- A statement whose value, if it has one, has distinct keys. -/
def Statement.IsDistinct : Statement → Prop
  | .entry _ d => d.Distinct
  | _ => True

theorem statement_isDistinct {ts rest : List Token} {s : Statement}
    (h : statement ts = some (s, rest)) : s.IsDistinct := by
  unfold statement at h
  -- Only an entry has a value; headers have none.
  split at h
  · obtain ⟨⟨path, ts'⟩, -, h⟩ := Option.bind_eq_some_iff.1 h
    simp only at h
    split at h
    · cases h
      trivial
    · cases h
  · obtain ⟨⟨path, ts'⟩, -, h⟩ := Option.bind_eq_some_iff.1 h
    simp only at h
    split at h
    · cases h
      trivial
    · cases h
  · obtain ⟨⟨⟨path, d⟩, _⟩, hd, he⟩ := Option.map_eq_some_iff.1 h
    cases he
    exact (value_readsDistinct nestingLimit).keyValue hd

/-- The values of all statements of a document have distinct keys. -/
theorem statements_isDistinct {n : ℕ} {ts : List Token} {ss : List Statement}
    (h : statements n ts = some ss) : ∀ s ∈ ss, s.IsDistinct := by
  induction n generalizing ts ss with
  | zero => cases h
  | succ n ih =>
    rw [statements] at h
    split at h
    · cases h
      exact fun _ h => absurd h List.not_mem_nil
    · obtain ⟨⟨s, ts₁⟩, hs, h⟩ := Option.bind_eq_some_iff.1 h
      obtain ⟨ts₂, -, h⟩ := Option.bind_eq_some_iff.1 h
      obtain ⟨ss', hss, rfl⟩ := Option.map_eq_some_iff.1 h
      exact List.forall_mem_cons.2 ⟨statement_isDistinct hs, ih hss⟩

/-- A statement adds no key that is there. -/
theorem IsDistinct.add {a a' : Assembly} {s : Statement} (ha : IsDistinct a.root)
    (hs : s.IsDistinct) (h : a.add s = some a') : IsDistinct a'.root := by
  -- A header opens a table or an item; an entry goes into the one that was opened last.
  rcases s with path | path | ⟨path, d⟩
  · obtain ⟨es, hes, rfl⟩ := Option.map_eq_some_iff.1 h
    exact ha.openTable hes
  · obtain ⟨es, hes, rfl⟩ := Option.map_eq_some_iff.1 h
    exact ha.openItem hes
  · obtain ⟨es, hes, rfl⟩ := Option.map_eq_some_iff.1 h
    exact ha.within hes fun _ _ _ h₁ h₂ => h₁.assign hs h₂

/-- A well-formed document is a table, and the keys of every table in it are distinct. -/
theorem read?_distinct {text : String} (h : Document.read? text = some d) :
    ∃ es, d = .table es ∧ d.Distinct := by
  obtain ⟨ts, -, h⟩ := Option.bind_eq_some_iff.1 h
  obtain ⟨ss, hss, h⟩ := Option.bind_eq_some_iff.1 h
  obtain ⟨a, ha, rfl⟩ := Option.map_eq_some_iff.1 h
  have hroot : IsDistinct a.root := by
    refine foldlM_keeps (I := fun a => IsDistinct a.root) ?_ isDistinct_nil ha
    intro s hs _ _ h₁ h₂
    exact h₁.add (statements_isDistinct hss s hs) h₂
  exact ⟨_, rfl, hroot⟩

end OpeningTerms.Toml
