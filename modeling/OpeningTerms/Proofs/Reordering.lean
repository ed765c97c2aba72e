import OpeningTerms.Proofs.Paths

/-!
# Documents in another order

The lines and the sections of a document may be written in many orders. What they say is the same
up to the order of the keys in its tables, at every depth (`Document.Reordered`); the items of an
array keep their places. In whatever order they are written, the keys are looked at in ascending
order:

* `Document.reordered_iff`: where the keys of every table are distinct, documents differ in the
  order of their keys only if and only if they are looked at as one and the same tree;
* `Settings.ofDocument_eq_of_reordered`: such documents give the same settings, or the same
  mismatch.
-/

namespace OpeningTerms.Toml

/-- The documents differ in the order of the keys of their tables only, at any depth. -/
inductive Document.Reordered : Document → Document → Prop
  | refl (d : Document) : Reordered d d
  | trans {d d' d'' : Document} (h : Reordered d d') (h' : Reordered d' d'') : Reordered d d''
  /-- The entries of a table are in another order. -/
  | table {es es' : List (String × Document)} (h : es.Perm es') :
      Reordered (.table es) (.table es')
  /-- The value of an entry is reordered. -/
  | value {es es' : List (String × Document)} {k : String} {d d' : Document}
      (h : Reordered d d') : Reordered (.table (es ++ (k, d) :: es')) (.table (es ++ (k, d') :: es'))
  /-- An item of an array is reordered. -/
  | item {ds ds' : List Document} {d d' : Document} (h : Reordered d d') :
      Reordered (.array (ds ++ d :: ds')) (.array (ds ++ d' :: ds'))

variable {d d' : Document} {es es' : List (String × Document)}

/-! ## Ascending keys -/

theorem keyLe_iff {a b : String × Document} : keyLe a b = true ↔ a.1 ≤ b.1 := by
  rw [keyLe, Bool.not_eq_true', decide_eq_false_iff_not, String.not_lt]

/-- Keys that ascend strictly. -/
def Ascending (es : List (String × Document)) : Prop := es.Pairwise fun a b => a.1 < b.1

theorem Ascending.nodup (hes : Ascending es) : (es.map Prod.fst).Nodup :=
  List.pairwise_map.2 (hes.imp fun hab => Std.ne_of_lt hab)

/-- Distinct keys that are looked at in ascending order ascend strictly. -/
theorem ascending_sortedEntries (h : (es.map Prod.fst).Nodup) : Ascending (sortedEntries es) := by
  have hsorted : (sortedEntries es).Pairwise fun a b => keyLe a b = true := by
    refine List.pairwise_mergeSort (fun a b c => ?_) (fun a b => ?_) _
    · simp only [keyLe_iff]
      exact String.le_trans
    · simp only [Bool.or_eq_true, keyLe_iff]
      exact String.le_total a.1 b.1
  have hdistinct := List.pairwise_map.1 (nodup_sortedEntries.2 h)
  exact hsorted.imp₂ (fun a b hab hne => Std.lt_of_le_of_ne (keyLe_iff.1 hab) hne) hdistinct

/-- The keys of every table in the tree that is looked at ascend. -/
theorem Document.Distinct.ascending {path : List Step} (hd : d.Distinct)
    (h : d.arranged.At path (.table es)) : Ascending es := by
  obtain ⟨y, hy, heq⟩ := at_arranged_iff.1 h
  obtain ⟨es', rfl, rfl⟩ := arranged_eq_table_iff.1 heq
  exact ascending_sortedEntries (hd path es' hy)

/-- Entries with distinct keys are looked at in one order, whatever the order they come in. -/
theorem sortedEntries_eq_of_perm (hes : (es.map Prod.fst).Nodup) (h : es.Perm es') :
    sortedEntries es = sortedEntries es' := by
  have hperm : (sortedEntries es).Perm (sortedEntries es') := by
    rw [sortedEntries, sortedEntries, arrangedEntries_eq_map, arrangedEntries_eq_map]
    exact (List.mergeSort_perm _ _).trans ((h.map _).trans (List.mergeSort_perm _ _).symm)
  exact hperm.eq_of_pairwise (fun a b _ _ hab hba => absurd hba (String.lt_asymm hab))
    (ascending_sortedEntries hes) (ascending_sortedEntries ((h.map Prod.fst).nodup_iff.1 hes))

/-! ## Reordered documents -/

namespace Document

theorem Reordered.symm (h : d.Reordered d') : d'.Reordered d := by
  induction h with
  | refl d => exact .refl d
  | trans _ _ ih ih' => exact ih'.trans ih
  | table h => exact .table h.symm
  | value _ ih => exact .value ih
  | item _ ih => exact .item ih

/-- A reordered document has distinct keys where the document has, and is looked at as the same
    tree. -/
theorem Reordered.distinct_and_arranged_eq (h : d.Reordered d') (hd : d.Distinct) :
    d'.Distinct ∧ d.arranged = d'.arranged := by
  induction h with
  | refl d => exact ⟨hd, rfl⟩
  | trans _ _ ih ih' =>
    obtain ⟨hd', heq⟩ := ih hd
    obtain ⟨hd'', heq'⟩ := ih' hd'
    exact ⟨hd'', heq.trans heq'⟩
  | table h =>
    rw [distinct_table_iff] at hd
    refine ⟨distinct_table_iff.2 ⟨(h.map Prod.fst).nodup_iff.1 hd.1, fun e he => ?_⟩, ?_⟩
    · exact hd.2 e (h.mem_iff.2 he)
    · rw [arranged_table, arranged_table, sortedEntries_eq_of_perm hd.1 h]
  | value _ ih =>
    simp only [distinct_table_iff, List.map_append, List.map_cons, List.forall_mem_append,
      List.forall_mem_cons] at hd ⊢
    obtain ⟨hkeys, hbefore, hvalue, hafter⟩ := hd
    obtain ⟨hvalue', heq⟩ := ih hvalue
    refine ⟨⟨hkeys, hbefore, hvalue', hafter⟩, ?_⟩
    simp only [arranged_table, sortedEntries, arrangedEntries_eq_map, List.map_append,
      List.map_cons, heq]
  | item _ ih =>
    simp only [distinct_array_iff, List.forall_mem_append, List.forall_mem_cons] at hd ⊢
    obtain ⟨hbefore, hitem, hafter⟩ := hd
    obtain ⟨hitem', heq⟩ := ih hitem
    refine ⟨⟨hbefore, hitem', hafter⟩, ?_⟩
    simp only [Document.arranged, arrangedItems_eq_map, List.map_append, List.map_cons, heq]

/-- The values of the entries behind `es` are reordered one after the other. -/
theorem reordered_map_entries (es es' : List (String × Document))
    (h : ∀ e ∈ es', e.2.Reordered e.2.arranged) :
    (table (es ++ es')).Reordered (table (es ++ es'.map fun e => (e.1, e.2.arranged))) := by
  induction es' generalizing es with
  | nil => exact .refl _
  | cons e es' ih =>
    rw [List.forall_mem_cons] at h
    have hrest := ih (es ++ [(e.1, e.2.arranged)]) h.2
    simp only [List.append_assoc, List.singleton_append] at hrest
    exact Reordered.trans (.value h.1) hrest

/-- The items behind `ds` are reordered one after the other. -/
theorem reordered_map_items (ds ds' : List Document)
    (h : ∀ d ∈ ds', d.Reordered d.arranged) :
    (array (ds ++ ds')).Reordered (array (ds ++ ds'.map arranged)) := by
  induction ds' generalizing ds with
  | nil => exact .refl _
  | cons d ds' ih =>
    rw [List.forall_mem_cons] at h
    have hrest := ih (ds ++ [d.arranged]) h.2
    simp only [List.append_assoc, List.singleton_append] at hrest
    exact Reordered.trans (.item h.1) hrest

/-- The tree with all keys in ascending order is the document in another order. -/
theorem reordered_arranged (d : Document) : d.Reordered d.arranged := by
  induction d using Document.induction with
  | array ds ih =>
    rw [Document.arranged, arrangedItems_eq_map]
    exact reordered_map_items [] ds ih
  | table es ih =>
    rw [arranged_table, sortedEntries, arrangedEntries_eq_map]
    exact (reordered_map_entries [] es ih).trans (.table (List.mergeSort_perm _ _).symm)
  | _ => exact .refl _

/-- A document with distinct keys differs from another in the order of the keys only if both are
    looked at as the same tree. -/
theorem reordered_iff (hd : d.Distinct) :
    d.Reordered d' ↔ d.arranged = d'.arranged := by
  refine ⟨fun h => (h.distinct_and_arranged_eq hd).2, fun h => ?_⟩
  have harranged := d'.reordered_arranged
  rw [← h] at harranged
  exact d.reordered_arranged.trans harranged.symm

end Document

end OpeningTerms.Toml

namespace OpeningTerms.Settings

/-- The order of the keys of a document changes neither the settings in it nor what is wrong with
    it. -/
theorem ofDocument_eq_of_reordered {d d' : Toml.Document} (h : d.Reordered d')
    (hd : d.Distinct) : ofDocument d = ofDocument d' := by
  rw [ofDocument, ofDocument, (Toml.Document.reordered_iff hd).1 h]

end OpeningTerms.Settings
