import Mathlib.Data.List.Nodup
import OpeningTerms.Proofs.Acceptance

/-!
# The values that are wanted

Four values of a document are wanted for the settings (`Field`): one in the section on the log, and
three in the section on the sequence. Each of them may be given, and be one that is not accepted
(`Field.IsFault`). In a *plain* document (`Document.Plain`) these are the only values that can be
refused; it has settings if all four are accepted (`Document.Plain.isSettings`).

* `Document.firstFault?` is the first value that is not accepted, in the order of `Field.inOrder`.
  This is not the order of the keys.
* `Document.only` leaves one of the four values in a document and takes the other three out. All
  else stays as it is, so what is left is plain again.
-/

namespace OpeningTerms.Toml

namespace Document

instance (d : Document) : Decidable d.IsText :=
  match d with
  | .text _ => isTrue trivial
  | .integer _ | .float _ | .overflow _ | .boolean _ | .moment | .array _ | .table _ =>
    isFalse id

instance (d : Document) : Decidable d.IsAmount :=
  match d with
  | .integer n => inferInstanceAs (Decidable (0 ≤ n ∧ n < 2 ^ 64))
  | .text _ | .float _ | .overflow _ | .boolean _ | .moment | .array _ | .table _ => isFalse id

end Document

/-! ## The fields -/

/-- The values in a document that are wanted for the settings. -/
inductive Field where
  | filter
  | terms
  | current
  | previous
deriving DecidableEq

namespace Field

/-- All of them, in the order in which their faults are reported. -/
def inOrder : List Field := [.filter, .terms, .current, .previous]

theorem mem_inOrder (f : Field) : f ∈ inOrder := by cases f <;> decide

/-- The key of the section. -/
def sectionKey : Field → String
  | filter => "log"
  | terms | current | previous => "sequence"

/-- The key in the section. -/
def key : Field → String
  | filter => "filter"
  | terms => "terms"
  | current => "current"
  | previous => "previous"

/-- A field is known by its keys. -/
theorem eq_of_keys {f g : Field} (h : g.sectionKey = f.sectionKey) (hkey : g.key = f.key) :
    g = f := by
  revert h hkey
  cases f <;> cases g <;> decide

theorem sectionKey_of_ne {f : Field} (hf : f ≠ filter) : f.sectionKey = "sequence" := by
  cases f <;> simp_all [sectionKey]

/-- Faults of `g` are told before those of `f`. -/
def Before (g f : Field) : Prop := inOrder.idxOf g < inOrder.idxOf f

instance (g f : Field) : Decidable (g.Before f) :=
  inferInstanceAs (Decidable (inOrder.idxOf g < inOrder.idxOf f))

theorem Before.ne {f g : Field} (h : g.Before f) : g ≠ f := by
  rintro rfl
  exact lt_irrefl _ h

/-- The filter is looked at before the numbers. -/
theorem filter_before {f : Field} (hf : f ≠ filter) : filter.Before f := by
  revert hf
  cases f <;> decide

/-- The values that are accepted. -/
def Accepts : Field → Document → Prop
  | filter, x => x.IsText
  | terms, x | current, x | previous, x => x.IsAmount

/-- Reads a value, without the use that is made of it. -/
def read : Field → Document → Except Mismatch Unit
  | filter, x => x.filterText.map fun _ => ()
  | terms, x | current, x | previous, x => x.amount.map fun _ => ()

/-- The value in a document, if it is given. -/
def value? (f : Field) (d : Document) : Option Document :=
  (d.get? f.sectionKey).bind (·.get? f.key)

/-- The value in a document is given and not accepted. -/
def IsFault (f : Field) (d : Document) : Prop := ∃ x ∈ f.value? d, ¬f.Accepts x

instance (f : Field) (x : Document) : Decidable (f.Accepts x) :=
  match f with
  | filter => inferInstanceAs (Decidable x.IsText)
  | terms | current | previous => inferInstanceAs (Decidable x.IsAmount)

instance (f : Field) (d : Document) : Decidable (f.IsFault d) :=
  inferInstanceAs (Decidable (∃ x ∈ f.value? d, ¬f.Accepts x))

end Field

variable {d x : Document} {es : List (String × Document)} {f g : Field} {k : String}
  {m : Mismatch}

namespace Document

/-- The first of the values in a document that is not accepted. -/
def firstFault? (d : Document) : Option Field := Field.inOrder.find? fun f => f.IsFault d

/-- The section with the key `k`, without the values of the other fields. -/
def strip (f : Field) (k : String) : Document → Document
  | .table es => .table (es.filter fun e =>
      ∀ g ∈ Field.inOrder, g.sectionKey = k → g.key = e.1 → g = f)
  | d => d

/-- The document without the values of the other fields. -/
def only (f : Field) : Document → Document
  | .table es => .table (es.map fun e => (e.1, e.2.strip f e.1))
  | d => d

/-- Under a key is a table, if anything. -/
def TableAt (d : Document) (k : String) : Prop := ∀ x, d.get? k = some x → ∃ es, x = .table es

/-- A document in which the values that are wanted are the only ones that can be refused. -/
structure Plain (d : Document) : Prop where
  log : d.TableAt "log"
  sequence : d.TableAt "sequence"
  isShort : ∀ path n, d.At path (.integer n) → -2 ^ 63 ≤ n ∧ n < 2 ^ 64
  inRange : ∀ path kind, ¬d.At path (.overflow kind)

/-- Under a key there is still a table if what was under it is changed to one. -/
theorem TableAt.map {d' : Document} {φ : Document → Document} (h : d.TableAt k)
    (hget : d'.get? k = (d.get? k).map φ) (hφ : ∀ es, ∃ es', φ (.table es) = .table es') :
    d'.TableAt k := by
  intro x hx
  rw [hget, Option.map_eq_some_iff] at hx
  obtain ⟨y, hy, rfl⟩ := hx
  obtain ⟨es, rfl⟩ := h y hy
  exact hφ es

/-- Every number in a plain document is short. -/
theorem Plain.everywhere_isShort (hd : d.Plain) : d.Everywhere IsShort := by
  rw [everywhere_isShort_iff, everywhere_inRange_iff]
  exact ⟨hd.inRange, fun path n h => isShort_iff.2 (hd.isShort path n h)⟩

/-- Short numbers and tables in both places make a plain document. -/
theorem Plain.of_everywhere_isShort (hlog : d.TableAt "log") (hsequence : d.TableAt "sequence")
    (hshort : d.Everywhere IsShort) : d.Plain := by
  rw [everywhere_isShort_iff, everywhere_inRange_iff] at hshort
  exact ⟨hlog, hsequence, fun path n h => isShort_iff.1 (hshort.2 path n h), hshort.1⟩

/-- What is said of everything in a document is true of everything under its keys. -/
theorem Everywhere.of_get? {P : Document → Prop} (hd : d.Distinct) (h : d.Everywhere P)
    (hx : d.get? k = some x) : x.Everywhere P := by
  cases d with
  | table es =>
    exact (everywhere_table_iff.1 h).2 _
      ((lookup_eq_some_iff_mem (distinct_table_iff.1 hd).1).1 hx)
  | _ => cases hx

end Document

namespace Field

/-- The value of a field stands under its key in its section. -/
theorem value?_eq_some_iff :
    f.value? d = some x ↔ ∃ y, d.get? f.sectionKey = some y ∧ y.get? f.key = some x :=
  Option.bind_eq_some_iff

theorem accepts_of_not_isFault (hf : ¬f.IsFault d) (hx : f.value? d = some x) : f.Accepts x := by
  by_contra h
  exact hf ⟨x, hx, h⟩

/-- A value is read if it is accepted. -/
theorem exists_read_error_iff : (∃ m, f.read x = .error m) ↔ ¬f.Accepts x := by
  -- To read a value without its use fails in the same cases.
  have herror {α : Type} (y : Except Mismatch α) :
      (∃ m, (y.map fun _ => ()) = .error m) ↔ ¬∃ a, y = .ok a := by
    rcases y with m | a <;> simp [Except.map]
  cases f
  case filter => rw [read, Accepts, herror, exists_filterText_iff]
  all_goals rw [read, Accepts, herror, exists_amount_iff]

end Field

/-- There is no first fault if there is none at all. -/
theorem firstFault?_eq_none_iff : d.firstFault? = none ↔ ∀ f : Field, ¬f.IsFault d := by
  simp [Document.firstFault?, Field.mem_inOrder]

/-- The first fault is one. -/
theorem isFault_of_firstFault? (h : d.firstFault? = some f) : f.IsFault d := by
  simpa using List.find?_some h

/-- What is told before the first fault is none. -/
theorem not_isFault_of_firstFault? (h : d.firstFault? = some f)
    (hg : g.Before f) : ¬g.IsFault d := by
  obtain ⟨-, i, hi, hf, hbefore⟩ := List.find?_eq_some_iff_getElem.1 h
  -- In a list without repetitions, an index is the place of one field only.
  have hidx := (by decide : Field.inOrder.Nodup).idxOf_getElem i hi
  rw [hf] at hidx
  rw [Field.Before, hidx] at hg
  simpa using hbefore _ hg

/-! ## The tree that is looked at -/

theorem amount_arranged : d.arranged.amount = d.amount := by
  cases d <;> simp [Document.arranged, Document.amount, Document.misfit, Document.found]

theorem filterText_arranged : d.arranged.filterText = d.filterText := by
  cases d <;> simp [Document.arranged, Document.filterText, Document.misfit, Document.found]

namespace Field

theorem accepts_arranged : f.Accepts x.arranged ↔ f.Accepts x := by
  cases f
  case filter => exact isText_arranged
  all_goals exact isAmount_arranged

/-- How a value is read does not depend on the order of the keys in it. -/
theorem read_arranged : f.read x.arranged = f.read x := by
  cases f
  case filter => rw [read, read, filterText_arranged]
  all_goals rw [read, read, amount_arranged]

/-- The value of a field is found in whatever order the keys stand. -/
theorem value?_arranged (hd : d.Distinct) :
    f.value? d.arranged = (f.value? d).map Document.arranged := by
  rw [value?, value?, get?_arranged hd]
  rcases h : d.get? f.sectionKey with _ | y
  · rfl
  · exact get?_arranged (hd.of_get? h) f.key

/-- The same values are faults in whatever order the keys stand. -/
theorem isFault_arranged (hd : d.Distinct) : f.IsFault d.arranged ↔ f.IsFault d := by
  simp only [IsFault, value?_arranged hd, Option.mem_def, Option.map_eq_some_iff]
  constructor
  · rintro ⟨_, ⟨x, hx, rfl⟩, hfault⟩
    exact ⟨x, hx, fun h => hfault (accepts_arranged.2 h)⟩
  · rintro ⟨x, hx, hfault⟩
    exact ⟨x.arranged, ⟨x, hx, rfl⟩, fun h => hfault (accepts_arranged.1 h)⟩

end Field

/-- A plain document is one in whatever order its keys stand. -/
theorem Document.Plain.arranged (hd : d.Distinct) (h : d.Plain) : d.arranged.Plain := by
  have htable (es : List (String × Document)) : ∃ es', (Document.table es).arranged = .table es' :=
    ⟨_, arranged_table es⟩
  refine ⟨h.log.map (get?_arranged hd _) htable, h.sequence.map (get?_arranged hd _) htable,
    fun path n hn => ?_, fun path kind hx => ?_⟩
  · exact h.isShort path n ((at_arranged_leaf_iff (x := .integer n) trivial).1 hn)
  · exact h.inRange path kind ((at_arranged_leaf_iff (x := .overflow kind) trivial).1 hx)

/-- A plain document has settings if all of its values are accepted. -/
theorem Document.Plain.isSettings (hd : d.Distinct) (hplain : d.Plain)
    (h : ∀ f : Field, ¬f.IsFault d) : d.IsSettings := by
  -- Every value that is looked at is that of a field, and so accepted.
  have haccepts (f : Field) {y v : Document} (hy : d.get? f.sectionKey = some y)
      (hv : y.get? f.key = some v) : f.Accepts v :=
    Field.accepts_of_not_isFault (h f) (Field.value?_eq_some_iff.2 ⟨y, hy, hv⟩)
  refine ⟨fun path kind hx => absurd hx (hplain.inRange path kind), fun y hy => ?_, fun y hy => ?_⟩
  · obtain ⟨vs, rfl⟩ := hplain.log y hy
    exact fun v hv => haccepts .filter hy hv
  · have hshort := hplain.everywhere_isShort.of_get? hd hy
    obtain ⟨vs, rfl⟩ := hplain.sequence y hy
    refine ⟨fun k hk v hv => ?_, fun k _ path n hn => ?_⟩
    · rcases Document.mem_amountKeys.1 hk with rfl | rfl | rfl
      · exact haccepts .terms hy hv
      · exact haccepts .previous hy hv
      · exact haccepts .current hy hv
    · exact isShort_iff.1 ((Document.everywhere_isShort_iff.1 hshort).2 _ n hn)

/-! ## One value without the others -/

/-- The values of a table are changed one by one. -/
theorem lookup_map (φ : String → Document → Document) :
    (es.map fun e => (e.1, φ e.1 e.2)).lookup k = (es.lookup k).map (φ k) := by
  induction es with
  | nil => rfl
  | cons e es ih =>
    rw [List.map_cons, List.lookup_cons, List.lookup_cons, ih]
    rcases hk : k == e.1 with _ | _
    · rfl
    · rw [eq_of_beq hk]
      rfl

/-- Some of the keys of a table are left out. -/
theorem lookup_filter (p : String → Bool) (es : List (String × Document)) (k : String) :
    (es.filter fun e => p e.1).lookup k = if p k then es.lookup k else none := by
  induction es with
  | nil => simp
  | cons e es ih =>
    rw [List.filter_cons, List.lookup_cons]
    rcases hk : k == e.1 with _ | _
    · split
      · rw [List.lookup_cons, hk, ih]
      · exact ih
    · rw [← eq_of_beq hk]
      split
      · rw [List.lookup_cons, hk]
      · rw [ih, if_neg ‹_›]

namespace Document

/-- What is left under a key is what `strip` leaves of it. -/
theorem get?_only (f : Field) (d : Document) (k : String) :
    (d.only f).get? k = (d.get? k).map (strip f k) := by
  cases d with
  | table es => exact lookup_map fun k x => x.strip f k
  | _ => rfl

/-- Of the keys that are wanted in a section, that of the field alone is left in. -/
theorem get?_strip (f g : Field) (d : Document) :
    (d.strip f g.sectionKey).get? g.key = if g = f then d.get? g.key else none := by
  -- Section and key together tell one field from the others.
  have hkeys : (∀ g' ∈ Field.inOrder, g'.sectionKey = g.sectionKey → g'.key = g.key → g' = f) ↔
      g = f := by
    constructor
    · intro h
      exact h g g.mem_inOrder rfl rfl
    · rintro rfl g' - hsection hkey
      exact Field.eq_of_keys hsection hkey
  cases d with
  | table es =>
    have hlookup := lookup_filter (fun k => ∀ g' ∈ Field.inOrder,
      g'.sectionKey = g.sectionKey → g'.key = k → g' = f) es g.key
    simp only [decide_eq_true_eq, hkeys] at hlookup
    exact hlookup
  | _ => simp [strip, get?]

/-- To leave out keys of a section adds nothing to it. -/
theorem Everywhere.strip {P : Document → Prop} (htable : ∀ es, P (.table es))
    (hd : d.Everywhere P) : (d.strip f k).Everywhere P := by
  cases d with
  | table es =>
    rw [Document.strip, everywhere_table_iff]
    exact ⟨htable _, fun e he => (everywhere_table_iff.1 hd).2 e (List.mem_of_mem_filter he)⟩
  | _ => exact hd

/-- What is said of everything in a document, and of all tables, is true of everything in what is
    left. -/
theorem Everywhere.only {P : Document → Prop} (htable : ∀ es, P (.table es))
    (hd : d.Everywhere P) : (d.only f).Everywhere P := by
  cases d with
  | table es =>
    rw [Document.only, everywhere_table_iff, List.forall_mem_map]
    exact ⟨htable _, fun e he => ((everywhere_table_iff.1 hd).2 e he).strip htable⟩
  | _ => exact hd

theorem Distinct.strip (hd : d.Distinct) : (d.strip f k).Distinct := by
  cases d with
  | table es =>
    rw [distinct_table_iff] at hd
    rw [Document.strip, distinct_table_iff]
    exact ⟨hd.1.sublist (List.filter_sublist.map _), fun e he =>
      hd.2 e (List.mem_of_mem_filter he)⟩
  | _ => exact hd

/-- Keys that are left are as distinct as they were. -/
theorem Distinct.only (hd : d.Distinct) : (d.only f).Distinct := by
  cases d with
  | table es =>
    rw [distinct_table_iff] at hd
    rw [Document.only, distinct_table_iff, List.map_map, List.forall_mem_map]
    exact ⟨hd.1, fun e he => (hd.2 e he).strip⟩
  | _ => exact hd

/-- A plain document is one without some of its values. -/
theorem Plain.only (hd : d.Plain) : (d.only f).Plain := by
  refine .of_everywhere_isShort (hd.log.map (get?_only f d _) fun es => ⟨_, rfl⟩)
    (hd.sequence.map (get?_only f d _) fun es => ⟨_, rfl⟩) ?_
  exact hd.everywhere_isShort.only fun _ => trivial

end Document

/-- The value of the field stays, and those of the others go. -/
theorem Field.value?_only (f g : Field) (d : Document) :
    g.value? (d.only f) = if g = f then g.value? d else none := by
  rw [value?, value?, Document.get?_only, Option.bind_map]
  rcases d.get? g.sectionKey with _ | y
  · simp
  · exact Document.get?_strip f g y

end OpeningTerms.Toml
