import Mathlib.Data.List.Perm.Lattice
import OpeningTerms.Settings.OfDocument

/-!
# Paths into documents

A value may stand anywhere in a document. Where it stands is told by a *path*, which goes from
tables to the values of their keys and from arrays to their items (`Document.At`). What is said of
a document at every depth is said of all values that paths lead to (`Document.Everywhere`).

The keys of a table are looked at in ascending order, which is another list than the document has,
but has the same values in the same places (`at_arranged_iff`); and where the keys of all tables
are distinct (`Document.Distinct`), the same value under every key (`get?_arranged`).

* `ignore_eq_ok_iff`: a value is passed over if every number in it is in some range;
* `keep_eq_ok_iff`: a value is kept if, moreover, every integer in it has at most 64 bits.
-/

namespace OpeningTerms.Toml

/-- A step into a document. -/
inductive Step where
  /-- From a table to the value of a key. -/
  | key (k : String)
  /-- From an array to an item. -/
  | item (i : ℕ)

namespace Document

/-- From `d`, the path leads to `x`. -/
inductive At : Document → List Step → Document → Prop
  | here (d : Document) : At d [] d
  | key {es : List (String × Document)} {k : String} {d x : Document} {path : List Step}
      (hd : (k, d) ∈ es) (h : At d path x) : At (.table es) (.key k :: path) x
  | item {ds : List Document} {i : ℕ} {d x : Document} {path : List Step}
      (hd : ds[i]? = some d) (h : At d path x) : At (.array ds) (.item i :: path) x

/-- Every value in a document, at any depth, satisfies `P`. -/
def Everywhere (P : Document → Prop) (d : Document) : Prop := ∀ path x, d.At path x → P x

/-- The keys of every table in a document are distinct. -/
def Distinct (d : Document) : Prop :=
  ∀ path es, d.At path (.table es) → (es.map Prod.fst).Nodup

/-- The value of a key of a table. -/
def get? : Document → String → Option Document
  | .table es, k => es.lookup k
  | _, _ => none

/-! ## Values and the values in them -/

/-- To prove something of all documents, it may be assumed of the items of an array and of the
    values of a table. -/
@[elab_as_elim]
theorem induction {motive : Document → Prop} (text : ∀ s, motive (.text s))
    (integer : ∀ n, motive (.integer n)) (float : ∀ x, motive (.float x))
    (overflow : ∀ kind, motive (.overflow kind)) (boolean : ∀ b, motive (.boolean b))
    (moment : motive .moment) (array : ∀ ds, (∀ d ∈ ds, motive d) → motive (.array ds))
    (table : ∀ es, (∀ e ∈ es, motive e.2) → motive (.table es)) :
    ∀ d, motive d
  | .text s => text s
  | .integer n => integer n
  | .float x => float x
  | .overflow kind => overflow kind
  | .boolean b => boolean b
  | .moment => moment
  | .array ds => array ds fun d _ =>
    induction text integer float overflow boolean moment array table d
  | .table es => table es fun e _ =>
    induction text integer float overflow boolean moment array table e.2
termination_by d => sizeOf d
decreasing_by
  -- An item, and the value of an entry, is smaller than what it is a part of.
  · have := List.sizeOf_lt_of_mem ‹d ∈ ds›
    rw [Document.array.sizeOf_spec]
    omega
  · have := List.sizeOf_lt_of_mem ‹e ∈ es›
    rcases e with ⟨k, d⟩
    rw [Prod.mk.sizeOf_spec] at this
    change sizeOf d < _
    rw [Document.table.sizeOf_spec]
    omega

variable {d x : Document} {ds : List Document} {es : List (String × Document)}
  {path : List Step} {k : String} {P : Document → Prop}

/-- A document without items and without entries leads to itself only. -/
def IsLeaf : Document → Prop
  | .array _ => False
  | .table _ => False
  | _ => True

/-- No path goes on from a leaf. -/
theorem IsLeaf.at_iff (hd : d.IsLeaf) : d.At path x ↔ path = [] ∧ x = d := by
  constructor
  · intro h
    cases h with
    | here => exact ⟨rfl, rfl⟩
    | key => exact hd.elim
    | item => exact hd.elim
  · rintro ⟨rfl, rfl⟩
    exact .here _

theorem at_nil_iff : d.At [] x ↔ x = d := by
  constructor
  · rintro ⟨⟩
    rfl
  · rintro rfl
    exact .here _

/-- A path that begins with a key goes on from one of the values that a table has under it. -/
theorem at_key_iff :
    d.At (.key k :: path) x ↔ ∃ es c, d = .table es ∧ (k, c) ∈ es ∧ c.At path x := by
  constructor
  · rintro (_ | ⟨hc, h⟩)
    exact ⟨_, _, rfl, hc, h⟩
  · rintro ⟨es, c, rfl, hc, h⟩
    exact .key hc h

/-- A path that begins with an item goes on from that item of an array. -/
theorem at_item_iff {i : ℕ} :
    d.At (.item i :: path) x ↔ ∃ ds c, d = .array ds ∧ ds[i]? = some c ∧ c.At path x := by
  constructor
  · rintro (_ | _ | ⟨hc, h⟩)
    exact ⟨_, _, rfl, hc, h⟩
  · rintro ⟨ds, c, rfl, hc, h⟩
    exact .item hc h

theorem everywhere_leaf_iff (hd : d.IsLeaf) : d.Everywhere P ↔ P d := by
  constructor
  · intro h
    exact h [] d (.here d)
  · intro h path x hx
    rw [(hd.at_iff.1 hx).2]
    exact h

/-- What holds at every depth of an array holds of it, and at every depth of its items. -/
theorem everywhere_array_iff :
    (array ds).Everywhere P ↔ P (.array ds) ∧ ∀ d ∈ ds, d.Everywhere P := by
  constructor
  · intro h
    refine ⟨h _ _ (.here _), fun d hd path x hx => ?_⟩
    obtain ⟨i, hi⟩ := List.getElem?_of_mem hd
    exact h _ x (.item hi hx)
  · -- The path stops at the array itself, or goes on from one of its items.
    rintro ⟨hd, h⟩ path x (_ | _ | ⟨hc, hx⟩)
    · exact hd
    · exact h _ (List.mem_of_getElem? hc) _ x hx

/-- What holds at every depth of a table holds of it, and at every depth of its values. -/
theorem everywhere_table_iff :
    (table es).Everywhere P ↔ P (.table es) ∧ ∀ e ∈ es, e.2.Everywhere P := by
  constructor
  · intro h
    exact ⟨h _ _ (.here _), fun e he path x hx => h _ x (.key he hx)⟩
  · rintro ⟨hd, h⟩ path x (_ | ⟨hc, hx⟩)
    · exact hd
    · exact h _ hc _ x hx

/-- What is said of all values in a document is fixed by what is said of leaves, and by going
    into items and entries. -/
theorem everywhere_unique (Q P : Document → Prop) (hleaf : ∀ d, d.IsLeaf → (Q d ↔ P d))
    (harray : ∀ ds, Q (.array ds) ↔ P (.array ds) ∧ ∀ d ∈ ds, Q d)
    (htable : ∀ es, Q (.table es) ↔ P (.table es) ∧ ∀ e ∈ es, Q e.2) (d : Document) :
    Q d ↔ d.Everywhere P := by
  -- A leaf leads nowhere else, so there is nothing to go into.
  have leaf (d : Document) (hd : d.IsLeaf) : Q d ↔ d.Everywhere P := by
    rw [hleaf d hd, everywhere_leaf_iff hd]
  induction d using Document.induction with
  | text s => exact leaf _ trivial
  | integer n => exact leaf _ trivial
  | float x => exact leaf _ trivial
  | overflow kind => exact leaf _ trivial
  | boolean b => exact leaf _ trivial
  | moment => exact leaf _ trivial
  | array ds ih =>
    rw [harray, everywhere_array_iff]
    exact and_congr_right fun _ => forall₂_congr ih
  | table es ih =>
    rw [htable, everywhere_table_iff]
    exact and_congr_right fun _ => forall₂_congr ih

/-- That keys are distinct is a property of every table in the document. -/
theorem distinct_iff_everywhere :
    d.Distinct ↔ d.Everywhere fun x => ∀ es, x = .table es → (es.map Prod.fst).Nodup := by
  constructor
  · rintro h path x hx es rfl
    exact h path es hx
  · intro h path es hx
    exact h path _ hx es rfl

theorem IsLeaf.distinct (hd : d.IsLeaf) : d.Distinct := by
  intro path es h
  rw [← (hd.at_iff.1 h).2] at hd
  exact hd.elim

theorem distinct_array_iff : (array ds).Distinct ↔ ∀ d ∈ ds, d.Distinct := by
  simp only [distinct_iff_everywhere, everywhere_array_iff, reduceCtorEq, false_implies,
    implies_true, true_and]

/-- A table has distinct keys at every depth if its own keys are distinct, and its values have
    distinct keys. -/
theorem distinct_table_iff :
    (table es).Distinct ↔ (es.map Prod.fst).Nodup ∧ ∀ e ∈ es, e.2.Distinct := by
  simp only [distinct_iff_everywhere, everywhere_table_iff, Document.table.injEq, forall_eq']

end Document

/-! ## Keys in ascending order -/

section

variable {d x : Document} {es : List (String × Document)} {path : List Step} {k : String}

/-- The items of an array stay in their order. -/
theorem arrangedItems_eq_map (ds : List Document) :
    arrangedItems ds = ds.map Document.arranged := by
  induction ds with
  | nil => rfl
  | cons d ds ih => rw [arrangedItems, ih, List.map_cons]

/-- The values of a table are arranged under the keys they have. -/
theorem arrangedEntries_eq_map (es : List (String × Document)) :
    arrangedEntries es = es.map fun e => (e.1, e.2.arranged) := by
  induction es with
  | nil => rfl
  | cons e es ih => rw [arrangedEntries, ih, List.map_cons]

/-- The entries of a table in ascending order of their keys. -/
def sortedEntries (es : List (String × Document)) : List (String × Document) :=
  (arrangedEntries es).mergeSort keyLe

/-- An arranged table has its entries in the order of their keys. -/
theorem arranged_table (es : List (String × Document)) :
    (Document.table es).arranged = .table (sortedEntries es) := by
  rw [Document.arranged, sortedEntries]

theorem arranged_singleton (k : String) (d : Document) :
    (Document.table [(k, d)]).arranged = .table [(k, d.arranged)] := by
  rw [arranged_table, sortedEntries, arrangedEntries, arrangedEntries, List.mergeSort_singleton]

/-- The order of the keys does not change what stands under them. -/
theorem mem_sortedEntries :
    (k, x) ∈ sortedEntries es ↔ ∃ d, (k, d) ∈ es ∧ d.arranged = x := by
  simp [sortedEntries, arrangedEntries_eq_map]

/-- The order of the keys does not change whether one of them comes twice. -/
theorem nodup_sortedEntries :
    ((sortedEntries es).map Prod.fst).Nodup ↔ (es.map Prod.fst).Nodup := by
  rw [sortedEntries, ((List.mergeSort_perm _ _).map Prod.fst).nodup_iff, arrangedEntries_eq_map,
    List.map_map]
  rfl

/-- Only a table is arranged to a table. -/
theorem arranged_eq_table_iff {es' : List (String × Document)} :
    d.arranged = .table es' ↔ ∃ es, d = .table es ∧ sortedEntries es = es' := by
  cases d <;> simp [Document.arranged, sortedEntries]

/-- Only an array is arranged to an array, item by item. -/
theorem arranged_eq_array_iff {ds' : List Document} :
    d.arranged = .array ds' ↔ ∃ ds, d = .array ds ∧ ds.map Document.arranged = ds' := by
  cases d <;> simp [Document.arranged, arrangedItems_eq_map]

/-- To look at keys in ascending order leads to the same values. -/
theorem at_arranged_iff : d.arranged.At path x ↔ ∃ y, d.At path y ∧ y.arranged = x := by
  induction path generalizing d with
  | nil => simp [Document.at_nil_iff, eq_comm]
  | cons step path ih =>
    rcases step with k | i
    · -- The key leads to the same value, arranged, and from there the path goes on.
      simp only [Document.at_key_iff, arranged_eq_table_iff]
      constructor
      · rintro ⟨_, _, ⟨es, rfl, rfl⟩, hmem, h⟩
        obtain ⟨c, hc, rfl⟩ := mem_sortedEntries.1 hmem
        obtain ⟨y, hy, rfl⟩ := ih.1 h
        exact ⟨y, ⟨es, c, rfl, hc, hy⟩, rfl⟩
      · rintro ⟨y, ⟨es, c, rfl, hc, hy⟩, rfl⟩
        exact ⟨_, _, ⟨es, rfl, rfl⟩, mem_sortedEntries.2 ⟨c, hc, rfl⟩, ih.2 ⟨y, hy, rfl⟩⟩
    · -- Items are not moved, so the index stays.
      simp only [Document.at_item_iff, arranged_eq_array_iff]
      constructor
      · rintro ⟨_, _, ⟨ds, rfl, rfl⟩, hc, h⟩
        rw [List.getElem?_map, Option.map_eq_some_iff] at hc
        obtain ⟨c, hc, rfl⟩ := hc
        obtain ⟨y, hy, rfl⟩ := ih.1 h
        exact ⟨y, ⟨ds, c, rfl, hc, hy⟩, rfl⟩
      · rintro ⟨y, ⟨ds, c, rfl, hc, hy⟩, rfl⟩
        refine ⟨_, _, ⟨ds, rfl, rfl⟩, ?_, ih.2 ⟨y, hy, rfl⟩⟩
        rw [List.getElem?_map, hc, Option.map_some]

/-- Under distinct keys, what is found under a key is all that is there. -/
theorem lookup_eq_some_iff_mem (h : (es.map Prod.fst).Nodup) :
    es.lookup k = some d ↔ (k, d) ∈ es := by
  induction es with
  | nil => simp
  | cons e es ih =>
    obtain ⟨k', d'⟩ := e
    rw [List.map_cons, List.nodup_cons] at h
    rw [List.lookup_cons, List.mem_cons, Prod.mk.injEq]
    by_cases hk : k = k'
    · -- The key does not come again.
      have hd : (k', d) ∉ es := fun hd => h.1 (List.mem_map.2 ⟨_, hd, rfl⟩)
      simp [hk, hd, eq_comm]
    · rw [beq_false_of_ne hk, ih h.2]
      simp [hk]

/-- The keys of every table are distinct in whatever order they are looked at. -/
theorem Document.Distinct.arranged (hd : d.Distinct) : d.arranged.Distinct := by
  intro path es' h
  obtain ⟨y, hy, hes⟩ := at_arranged_iff.1 h
  obtain ⟨es, rfl, rfl⟩ := arranged_eq_table_iff.1 hes
  exact nodup_sortedEntries.2 (hd path es hy)

/-- Where keys are distinct, a key has the same value in every order of them. -/
theorem lookup_sortedEntries (h : (es.map Prod.fst).Nodup) (k : String) :
    (sortedEntries es).lookup k = (es.lookup k).map Document.arranged := by
  ext x
  -- Under distinct keys, to be found means to be there, and that no order changes.
  rw [lookup_eq_some_iff_mem (nodup_sortedEntries.2 h), mem_sortedEntries, Option.map_eq_some_iff]
  simp only [lookup_eq_some_iff_mem h]

/-- A key has the same value in whatever order the keys are looked at. -/
theorem get?_arranged (hd : d.Distinct) (k : String) :
    d.arranged.get? k = (d.get? k).map Document.arranged := by
  cases d with
  | table es =>
    rw [arranged_table]
    exact lookup_sortedEntries (Document.distinct_table_iff.1 hd).1 k
  | _ => simp [Document.arranged, Document.get?]

/-- A value under a key of a document with distinct keys has distinct keys. -/
theorem Document.Distinct.of_get? (hd : d.Distinct) (h : d.get? k = some x) : x.Distinct := by
  cases d with
  | table es =>
    rw [distinct_table_iff] at hd
    exact hd.2 _ ((lookup_eq_some_iff_mem hd.1).1 h)
  | _ => cases h

end

/-! ## Values that do not matter -/

namespace Document

/-- A number that is in some range, or no number. -/
def InRange : Document → Prop
  | .overflow _ => False
  | _ => True

/-- A number that is in some range, an integer of at most 64 bits among them, or no number. -/
def IsShort : Document → Prop
  | .overflow _ => False
  | .integer n => isShort n
  | _ => True

variable {d x : Document}

/-- Every number is in some range if and only if there is no overflow anywhere. -/
theorem everywhere_inRange_iff :
    d.Everywhere InRange ↔ ∀ path kind, ¬d.At path (.overflow kind) := by
  constructor
  · intro h path kind hx
    exact h path _ hx
  · intro h path x hx
    cases x with
    | overflow kind => exact h path kind hx
    | _ => trivial

/-- Every number is short if it is in some range, and no integer has more than 64 bits. -/
theorem everywhere_isShort_iff :
    d.Everywhere IsShort ↔
      d.Everywhere InRange ∧ ∀ path n, d.At path (.integer n) → isShort n := by
  rw [everywhere_inRange_iff]
  constructor
  · intro h
    exact ⟨fun path kind hx => h path _ hx, fun path n hx => h path _ hx⟩
  · rintro ⟨h₁, h₂⟩ path x hx
    -- Only overflows and integers are restricted at all.
    cases x with
    | overflow kind => exact h₁ path kind hx
    | integer n => exact h₂ path n hx
    | _ => trivial

end Document

theorem bind_ok_iff {ε α β : Type} {x : Except ε α} {f : α → Except ε β} {b : β} :
    x.bind f = .ok b ↔ ∃ a, x = .ok a ∧ f a = .ok b := by
  rcases x with e | a
  · simp [Except.bind]
  · simp [Except.bind]

theorem map_ok_iff {ε α β : Type} {x : Except ε α} {f : α → β} {b : β} :
    x.map f = .ok b ↔ ∃ a, x = .ok a ∧ f a = b := by
  rcases x with e | a
  · simp [Except.map]
  · simp [Except.map]

/-- Two checks in a row succeed if both do. -/
theorem seq_ok_iff {ε : Type} {x y : Except ε Unit} :
    (x.bind fun _ => y) = .ok () ↔ x = .ok () ∧ y = .ok () := by
  rw [bind_ok_iff]
  exact ⟨fun ⟨_, hx, hy⟩ => ⟨hx, hy⟩, fun ⟨hx, hy⟩ => ⟨(), hx, hy⟩⟩

/-- Items are passed over if each of them is. -/
theorem ignoreItems_eq_ok_iff (ds : List Document) :
    ignoreItems ds = .ok () ↔ ∀ d ∈ ds, d.ignore = .ok () := by
  induction ds with
  | nil => simp [ignoreItems]
  | cons d ds ih => rw [ignoreItems, seq_ok_iff, ih, List.forall_mem_cons]

theorem ignoreEntries_eq_ok_iff (es : List (String × Document)) :
    ignoreEntries es = .ok () ↔ ∀ e ∈ es, e.2.ignore = .ok () := by
  induction es with
  | nil => simp [ignoreEntries]
  | cons e es ih => rw [ignoreEntries, seq_ok_iff, ih, List.forall_mem_cons]

/-- Items are kept if each of them is. -/
theorem keepItems_eq_ok_iff (ds : List Document) :
    keepItems ds = .ok () ↔ ∀ d ∈ ds, d.keep = .ok () := by
  induction ds with
  | nil => simp [keepItems]
  | cons d ds ih => rw [keepItems, seq_ok_iff, ih, List.forall_mem_cons]

theorem keepEntries_eq_ok_iff (es : List (String × Document)) :
    keepEntries es = .ok () ↔ ∀ e ∈ es, e.2.keep = .ok () := by
  induction es with
  | nil => simp [keepEntries]
  | cons e es ih => rw [keepEntries, seq_ok_iff, ih, List.forall_mem_cons]

/-- A value is passed over if every number in it is in some range. -/
theorem ignore_eq_ok_iff (d : Document) : d.ignore = .ok () ↔ d.Everywhere Document.InRange := by
  refine Document.everywhere_unique (fun d => d.ignore = .ok ()) _ (fun d hd => ?_) (fun ds => ?_)
    (fun es => ?_) d
  · cases d <;> simp_all [Document.ignore, Document.InRange, Document.IsLeaf]
  · simp [Document.ignore, Document.InRange, ignoreItems_eq_ok_iff]
  · simp [Document.ignore, Document.InRange, ignoreEntries_eq_ok_iff]

/-- A value is kept if every number in it is in some range and every integer in it has at most
    64 bits. -/
theorem keep_eq_ok_iff (d : Document) : d.keep = .ok () ↔ d.Everywhere Document.IsShort := by
  refine Document.everywhere_unique (fun d => d.keep = .ok ()) _ (fun d hd => ?_) (fun ds => ?_)
    (fun es => ?_) d
  · cases d <;> simp_all [Document.keep, Document.IsShort, Document.IsLeaf]
  · simp [Document.keep, Document.IsShort, keepItems_eq_ok_iff]
  · simp [Document.keep, Document.IsShort, keepEntries_eq_ok_iff]

end OpeningTerms.Toml
