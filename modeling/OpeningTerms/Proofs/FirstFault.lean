import OpeningTerms.Proofs.Fields
import OpeningTerms.Proofs.Reordering

/-!
# The first fault of a document

If several values of a plain document are not accepted, one of them is told: the first, in the order
of `Field.inOrder`. This is not the order of the keys. The keys of a table are looked at in
ascending order, and the first of them whose value is not read decides (`foldlM_eq_error`); but in
the section on the sequence only the number of terms is read when its key comes, and the halves of
the seed are kept until the end, the second half in front of the first.

* `settings_eq_error`: what a tree with ascending keys is refused for;
* `Settings.loadFrom_first_fault`: what is told of a plain document, in whatever order it is
  written.
-/

namespace OpeningTerms.Toml

variable {d x : Document} {es : List (String × Document)} {f : Field} {k : String} {m : Mismatch}

/-! ## The entry that decides -/

theorem map_error_iff {ε α β : Type} {y : Except ε α} {φ : α → β} {e : ε} :
    y.map φ = .error e ↔ y = .error e := by
  rcases y with e' | a <;> simp [Except.map]

section

variable {σ : Type} {r : σ → String × Document → Except Mismatch σ} {e : String × Document}

/-- Of entries whose keys ascend, the first one that is not read decides. -/
theorem foldlM_eq_error (hes : Ascending es) (he : e ∈ es)
    (hbefore : ∀ e' ∈ es, e'.1 < e.1 → ∀ s, ∃ s', r s e' = .ok s')
    (hread : ∀ s, r s e = .error m) (s : σ) : es.foldlM r s = .error m := by
  induction es generalizing s with
  | nil => cases he
  | cons a es ih =>
    rw [Ascending, List.pairwise_cons] at hes
    rw [List.forall_mem_cons] at hbefore
    rw [List.foldlM_cons]
    -- The entry is the next one, or the next one has a smaller key and is read.
    rcases List.mem_cons.1 he with rfl | he
    · rw [hread]
      rfl
    · obtain ⟨s', hs⟩ := hbefore.1 (hes.1 e he) s
      rw [hs]
      exact ih hes.2 he hbefore.2 s'

/-- The same for the entry under a key. -/
theorem foldlM_eq_error_of_lookup (hes : Ascending es) (hx : es.lookup k = some x)
    (hbefore : ∀ e ∈ es, e.1 < k → ∀ s, ∃ s', r s e = .ok s')
    (hread : ∀ s, r s (k, x) = .error m) (s : σ) : es.foldlM r s = .error m :=
  foldlM_eq_error hes ((lookup_eq_some_iff_mem hes.nodup).1 hx) hbefore hread s

end

/-! ## Section by section -/

section

variable (hes : Ascending es)

include hes

theorem exists_logSettings (hrange : (Document.table es).Everywhere Document.InRange)
    (hfilter : ∀ v, es.lookup "filter" = some v → v.IsText) :
    ∃ l, (Document.table es).logSettings = .ok l := by
  rw [Document.logSettings, exists_map_ok_iff, exists_foldlM_iff exists_filterEntry_iff]
  exact fun e he => ⟨(forall_lookup_iff hes.nodup).1 hfilter e he, fun _ =>
    (Document.everywhere_table_iff.1 hrange).2 e he⟩

/-- A filter that is no text is what a section on the log is refused for. -/
theorem logSettings_eq_error (hrange : (Document.table es).Everywhere Document.InRange)
    (hx : es.lookup "filter" = some x) (hm : x.filterText = .error m) :
    (Document.table es).logSettings = .error m := by
  have hfold : es.foldlM filterEntry none = .error m := by
    refine foldlM_eq_error_of_lookup hes hx (fun e he hk t => ?_) (fun t => ?_) none
    · rw [exists_filterEntry_iff]
      exact ⟨fun heq => absurd heq (Std.ne_of_lt hk), fun _ =>
        (Document.everywhere_table_iff.1 hrange).2 e he⟩
    · rw [filterEntry, if_pos rfl, hm]
      rfl
  rw [Document.logSettings, hfold]
  rfl

/-- A number of terms that is no amount is what a section on the sequence is refused for, whatever
    the halves of the seed are. -/
theorem sequenceSettings_of_terms (hshort : (Document.table es).Everywhere Document.IsShort)
    (hx : es.lookup "terms" = some x) (hm : x.amount = .error m) :
    (Document.table es).sequenceSettings = .error m := by
  have hfold : es.foldlM termsEntry none = .error m := by
    refine foldlM_eq_error_of_lookup hes hx (fun e he hk t => ?_) (fun t => ?_) none
    · rw [exists_termsEntry_iff]
      exact ⟨fun heq => absurd heq (Std.ne_of_lt hk), fun _ =>
        (Document.everywhere_table_iff.1 hshort).2 e he⟩
    · rw [termsEntry, if_pos rfl, hm]
      rfl
  rw [Document.sequenceSettings, hfold]
  rfl

/-- The keys of a section on the sequence are gone through if the number of terms is an amount:
    the halves of the seed are only kept then. -/
theorem exists_foldlM_termsEntry (hshort : (Document.table es).Everywhere Document.IsShort)
    (hterms : ∀ v, es.lookup "terms" = some v → v.IsAmount) :
    ∃ t, es.foldlM termsEntry none = .ok t := by
  rw [exists_foldlM_iff exists_termsEntry_iff]
  exact fun e he => ⟨(forall_lookup_iff hes.nodup).1 hterms e he, fun _ =>
    (Document.everywhere_table_iff.1 hshort).2 e he⟩

/-- The second half of the seed is read in front of the first. -/
theorem sequenceSettings_of_current (hshort : (Document.table es).Everywhere Document.IsShort)
    (hterms : ∀ v, es.lookup "terms" = some v → v.IsAmount)
    (hx : es.lookup "current" = some x) (hm : x.amount = .error m) :
    (Document.table es).sequenceSettings = .error m := by
  obtain ⟨t, ht⟩ := exists_foldlM_termsEntry hes hshort hterms
  have hcurrent : keptHalf "current" Seed.standard.current es = .error m := by
    rw [keptHalf, hx]
    exact hm
  rw [Document.sequenceSettings, ht, hcurrent]
  rfl

theorem sequenceSettings_of_previous (hshort : (Document.table es).Everywhere Document.IsShort)
    (hterms : ∀ v, es.lookup "terms" = some v → v.IsAmount)
    (hcurrent : ∀ v, es.lookup "current" = some v → v.IsAmount)
    (hx : es.lookup "previous" = some x) (hm : x.amount = .error m) :
    (Document.table es).sequenceSettings = .error m := by
  obtain ⟨t, ht⟩ := exists_foldlM_termsEntry hes hshort hterms
  obtain ⟨c, hc⟩ := (exists_keptHalf_iff "current" Seed.standard.current).2 hcurrent
  have hprevious : keptHalf "previous" Seed.standard.previous es = .error m := by
    rw [keptHalf, hx]
    exact hm
  rw [Document.sequenceSettings, ht, hc, hprevious]
  rfl

/-- A section on the sequence is refused for the first of its values that is not accepted. -/
theorem sequenceSettings_eq_error (hshort : (Document.table es).Everywhere Document.IsShort)
    (hf : f ≠ .filter) (hx : es.lookup f.key = some x) (hm : f.read x = .error m)
    (hbefore : ∀ g : Field, g.Before f → g ≠ .filter → ∀ v, es.lookup g.key = some v →
      g.Accepts v) : (Document.table es).sequenceSettings = .error m := by
  -- What comes before the field has been accepted, so its own value is reached.
  cases f with
  | filter => exact absurd rfl hf
  | terms => exact sequenceSettings_of_terms hes hshort hx (map_error_iff.1 hm)
  | current =>
    have hterms := hbefore .terms (by decide) (by decide)
    exact sequenceSettings_of_current hes hshort hterms hx (map_error_iff.1 hm)
  | previous =>
    have hterms := hbefore .terms (by decide) (by decide)
    have hcurrent := hbefore .current (by decide) (by decide)
    exact sequenceSettings_of_previous hes hshort hterms hcurrent hx (map_error_iff.1 hm)

/-- The section on the log is the first of the two that are read. -/
theorem settings_of_log (hrange : (Document.table es).Everywhere Document.InRange)
    (hx : es.lookup "log" = some x) (hm : x.logSettings = .error m) :
    es.foldlM settingsEntry {} = .error m := by
  refine foldlM_eq_error_of_lookup hes hx (fun e he hk s => ?_) (fun s => ?_) _
  · rw [exists_settingsEntry_iff]
    refine ⟨fun heq => absurd heq (Std.ne_of_lt hk), fun _ => ⟨fun heq => ?_, fun _ => ?_⟩⟩
    · -- The key of the other section comes after that of this one.
      rw [heq] at hk
      exact absurd hk (by decide)
    · exact (Document.everywhere_table_iff.1 hrange).2 e he
  · rw [settingsEntry, if_pos rfl, hm]
    rfl

theorem settings_of_sequence (hrange : (Document.table es).Everywhere Document.InRange)
    (hlog : ∀ l, es.lookup "log" = some l → ∃ s, l.logSettings = .ok s)
    (hx : es.lookup "sequence" = some x) (hm : x.sequenceSettings = .error m) :
    es.foldlM settingsEntry {} = .error m := by
  refine foldlM_eq_error_of_lookup hes hx (fun e he hk s => ?_) (fun s => ?_) _
  · rw [exists_settingsEntry_iff]
    refine ⟨(forall_lookup_iff hes.nodup).1 hlog e he, fun _ => ⟨fun heq => ?_, fun _ => ?_⟩⟩
    · exact absurd heq (Std.ne_of_lt hk)
    · exact (Document.everywhere_table_iff.1 hrange).2 e he
  · rw [settingsEntry, if_neg (by decide), if_pos rfl, hm]
    rfl

end

/-- A plain tree with ascending keys is refused for the first value that is not accepted. -/
theorem settings_eq_error (hes : Ascending es)
    (hsection : ∀ k vs, es.lookup k = some (.table vs) → Ascending vs)
    (hplain : (Document.table es).Plain) (hx : f.value? (.table es) = some x)
    (hm : f.read x = .error m)
    (hbefore : ∀ g : Field, g.Before f → ¬g.IsFault (.table es)) :
    es.foldlM settingsEntry {} = .error m := by
  have hshort := hplain.everywhere_isShort
  have hrange := (Document.everywhere_isShort_iff.1 hshort).1
  have hinner {k : String} {y : Document} (hy : es.lookup k = some y) :
      y.Everywhere Document.IsShort :=
    (Document.everywhere_table_iff.1 hshort).2 _ ((lookup_eq_some_iff_mem hes.nodup).1 hy)
  have haccepts (g : Field) (hg : g.Before f) {y v : Document}
      (hy : es.lookup g.sectionKey = some y) (hv : y.get? g.key = some v) : g.Accepts v :=
    Field.accepts_of_not_isFault (hbefore g hg) (Field.value?_eq_some_iff.2 ⟨y, hy, hv⟩)
  obtain ⟨y, hy, hx⟩ := Field.value?_eq_some_iff.1 hx
  by_cases hf : f = .filter
  · subst hf
    obtain ⟨vs, rfl⟩ := hplain.log y hy
    refine settings_of_log hes hrange hy ?_
    have hrange' := (Document.everywhere_isShort_iff.1 (hinner hy)).1
    exact logSettings_eq_error (hsection _ _ hy) hrange' hx (map_error_iff.1 hm)
  · -- The filter is accepted, so what is wrong with the section on the sequence decides.
    have hlog (l : Document) (hl : es.lookup "log" = some l) : ∃ s, l.logSettings = .ok s := by
      obtain ⟨vs, rfl⟩ := hplain.log l hl
      have hrange' := (Document.everywhere_isShort_iff.1 (hinner hl)).1
      refine exists_logSettings (hsection _ _ hl) hrange' fun v hv => ?_
      exact haccepts .filter (Field.filter_before hf) hl hv
    rw [Field.sectionKey_of_ne hf] at hy
    obtain ⟨vs, rfl⟩ := hplain.sequence y hy
    refine settings_of_sequence hes hrange hlog hy ?_
    refine sequenceSettings_eq_error (hsection _ _ hy) (hinner hy) hf hx hm fun g hg hne v hv => ?_
    rw [← Field.sectionKey_of_ne hne] at hy
    exact haccepts g hg hy hv

/-! ## Plain documents -/

/-- Of a plain document, the first value that is not accepted is told. -/
theorem ofDocument_eq_error (hd : d.Distinct) (hplain : d.Plain) (hx : f.value? d = some x)
    (hm : f.read x = .error m) (hbefore : ∀ g : Field, g.Before f → ¬g.IsFault d) :
    Settings.ofDocument d = .error m := by
  have hplain' := hplain.arranged hd
  have hx' : f.value? d.arranged = some x.arranged := by
    rw [Field.value?_arranged hd, hx]
    rfl
  simp only [← Field.isFault_arranged hd] at hbefore
  rw [← Field.read_arranged] at hm
  cases d with
  | table es =>
    rw [Settings.ofDocument]
    simp only [arranged_table] at hplain' hx' hbefore ⊢
    have hroot : (Document.table (sortedEntries es)).At [] (.table (sortedEntries es)) := .here _
    rw [← arranged_table] at hroot
    have hes := hd.ascending hroot
    -- The tables of the sections have their keys in order, too.
    have hsection (k : String) (vs : List (String × Document))
        (hvs : (sortedEntries es).lookup k = some (.table vs)) : Ascending vs := by
      have hat : (Document.table (sortedEntries es)).At [.key k] (.table vs) :=
        .key ((lookup_eq_some_iff_mem hes.nodup).1 hvs) (.here _)
      rw [← arranged_table] at hat
      exact hd.ascending hat
    exact settings_eq_error hes hsection hplain' hx' hm hbefore
  | _ => cases hx

/-- Without the other values, a value that is not accepted is told in any case. -/
theorem ofDocument_only_eq_error (hd : d.Distinct) (hplain : d.Plain) (hx : f.value? d = some x)
    (hm : f.read x = .error m) : Settings.ofDocument (d.only f) = .error m := by
  refine ofDocument_eq_error hd.only hplain.only ?_ hm fun g hg => ?_
  · rw [Field.value?_only, if_pos rfl]
    exact hx
  · rintro ⟨y, hy, -⟩
    rw [Field.value?_only, if_neg hg.ne] at hy
    cases hy

end OpeningTerms.Toml

namespace OpeningTerms.Settings

open Toml

/-- From a place with a plain document, settings are loaded if every value that is wanted is
    accepted. If not, the first that is not accepted is told, as if the others were not there, and
    in whatever order the document is written. -/
theorem loadFrom_first_fault (path : String) {place : Place} {text : String} {d : Document}
    (htext : place.text = .ok text) (hd : Document.read? text = some d) (hplain : d.Plain) :
    (∀ f, d.firstFault? = some f → ∃ x m, f.value? d = some x ∧ f.read x = .error m ∧
      loadFrom path place = .error (.parse path (.mismatch m)) ∧
      ofDocument (d.only f) = .error m ∧
      ∀ path' place' text' d', place'.text = .ok text' → Document.read? text' = some d' →
        (d.only f).Reordered d' →
          loadFrom path' place' = .error (.parse path' (.mismatch m))) ∧
    (d.firstFault? = none → ∃ s, loadFrom path place = .ok s) ∧
    ∀ place' text' d', place'.text = .ok text' → Document.read? text' = some d' →
      d.Reordered d' → loadFrom path place' = loadFrom path place := by
  obtain ⟨es, rfl, hdistinct⟩ := read?_distinct hd
  rw [loadFrom_eq htext hd]
  -- One fault at least; none; and the same document in another order.
  refine ⟨fun f hf => ?_, fun hnone => ?_, fun place' text' d' htext' hd' horder => ?_⟩
  · obtain ⟨x, hx, hfault⟩ := isFault_of_firstFault? hf
    obtain ⟨m, hm⟩ := Field.exists_read_error_iff.2 hfault
    have hall : ofDocument (.table es) = .error m :=
      ofDocument_eq_error hdistinct hplain hx hm fun g => not_isFault_of_firstFault? hf
    have honly : ofDocument ((Document.table es).only f) = .error m :=
      ofDocument_only_eq_error hdistinct hplain hx hm
    refine ⟨x, m, hx, hm, ?_, honly, fun path' place' text' d' htext' hd' horder => ?_⟩
    · rw [hall]
      rfl
    · rw [loadFrom_eq htext' hd', ← ofDocument_eq_of_reordered horder hdistinct.only, honly]
      rfl
  · have hsettings := hplain.isSettings hdistinct (firstFault?_eq_none_iff.1 hnone)
    obtain ⟨s, hs⟩ := (ofDocument_gives hdistinct).1.2 hsettings
    rw [hs]
    exact ⟨s, rfl⟩
  · rw [loadFrom_eq htext' hd', ofDocument_eq_of_reordered horder hdistinct]

/-- A number of terms that is none is told, and not a half of the seed that is none, although the
    key of the latter comes first, in the text and in ascending order. -/
theorem loadFrom_first_fault_terms :
    let e : LoadError := .parse "" (.mismatch (.wrongType (.boolean true) .amount))
    loadFrom "" (.file "[sequence]\ncurrent=-1\nterms=true".toUTF8) = .error e ∧
      loadFrom "" (.file "[sequence]\nterms=true".toUTF8) = .error e := by
  intro e
  have hd : Document.read? "[sequence]\ncurrent=-1\nterms=true" = some (.table
      [("sequence", .table [("current", .integer (-1)), ("terms", .boolean true)])]) := by
    have htokens : tokens? "[sequence]\ncurrent=-1\nterms=true".toList = some
        [.openBracket, .word "sequence".toList, .closeBracket, .newline, .word "current".toList,
          .equals, .word "-1".toList, .newline, .word "terms".toList, .equals,
          .word "true".toList] := by decide +kernel
    rw [Document.read?_eq (by decide +kernel) htokens rfl]
    rfl
  have hd' : Document.read? "[sequence]\nterms=true" = some (.table
      [("sequence", .table [("terms", .boolean true)])]) := by
    have htokens : tokens? "[sequence]\nterms=true".toList = some
        [.openBracket, .word "sequence".toList, .closeBracket, .newline, .word "terms".toList,
          .equals, .word "true".toList] := by decide +kernel
    rw [Document.read?_eq (by decide +kernel) htokens rfl]
    rfl
  have hplain : (Document.table
      [("sequence", .table [("current", .integer (-1)), ("terms", .boolean true)])]).Plain := by
    refine .of_everywhere_isShort (by rintro x ⟨⟩) (by rintro x ⟨⟩; exact ⟨_, rfl⟩) ?_
    have hcurrent : (Document.integer (-1)).Everywhere Document.IsShort := by
      rw [Document.everywhere_leaf_iff (d := .integer (-1)) trivial]
      rfl
    have hterms : (Document.boolean true).Everywhere Document.IsShort := by
      rw [Document.everywhere_leaf_iff (d := .boolean true) trivial]
      trivial
    simp [Document.everywhere_table_iff, Document.IsShort, hcurrent, hterms]
  obtain ⟨hfault, -, -⟩ := loadFrom_first_fault "" (Place.text_toUTF8 _) hd hplain
  obtain ⟨x, m, hx, hm, hload, -, halone⟩ := hfault .terms rfl
  cases hx
  cases hm
  exact ⟨hload, halone _ _ _ _ (Place.text_toUTF8 _) hd' (.refl _)⟩

end OpeningTerms.Settings
