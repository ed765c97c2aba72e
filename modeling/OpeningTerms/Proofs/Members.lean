import OpeningTerms.Proofs.Spelling

/-!
# Objects of numbers

The plainest objects of JSON have numbers of 64 bits for values, under keys that need no escapes.
Such an object is written without white space (`objectText`): a key stands between quotes as it is
(`spellsParts_of_plain`), a number as its digits (`spells_amountValue_iff`), and field by field this is
a text of the object (`isReadFrom_objectText`).

* `read_object`: the text of an object of numbers is that object, and nothing more.
-/

namespace OpeningTerms.Json

open OpeningTerms.Text

/-! ## What is written -/

/-- Keys with their numbers. -/
abbrev Fields := List (String × UInt64)

/-- A key between quotes, with its number. -/
def fieldText (f : String × UInt64) : String := "\"" ++ f.1 ++ "\":" ++ f.2.toNat.repr

/-- What comes behind a field: the others, and the end of the object. -/
def endText : Fields → String
  | [] => "\x7d"
  | f :: fs => "," ++ fieldText f ++ endText fs

/-- All fields between braces. -/
def objectText : Fields → String
  | [] => "\x7b\x7d"
  | f :: fs => "\x7b" ++ fieldText f ++ endText fs

/-- A number as the value that it is read as. -/
def amountValue (n : UInt64) : Value := .number (.integer n.toNat)

/-- A field as the member that it is read as. -/
def fieldMember (f : String × UInt64) : Option String × Value := (some f.1, amountValue f.2)

/-- A text that is written between quotes as it is. -/
def IsPlainText (k : String) : Prop :=
  k.toList.all fun c => c ≠ '"' ∧ c ≠ '\\' ∧ 0x20 ≤ c.toNat

theorem IsPlainText.forall_mem {k : String} (hk : IsPlainText k) :
    ∀ c ∈ k.toList, c ≠ '"' ∧ c ≠ '\\' ∧ 0x20 ≤ c.toNat :=
  fun c hc => of_decide_eq_true (List.all_eq_true.1 hk c hc)

/-! ## Keys and numbers -/

/-- Characters that need no escape stand for themselves. -/
theorem spellsParts_of_plain {cs : List Char}
    (hcs : ∀ c ∈ cs, c ≠ '"' ∧ c ≠ '\\' ∧ 0x20 ≤ c.toNat) : SpellsParts cs (cs.map .char) := by
  induction cs with
  | nil => exact .nil
  | cons c cs ih =>
    rw [List.forall_mem_cons] at hcs
    exact .char hcs.1 (ih hcs.2)

theorem joinParts_map_char (cs : List Char) : joinParts none (cs.map .char) = some cs := by
  induction cs with
  | nil => rfl
  | cons c cs ih => rw [List.map_cons, joinParts, ih, Option.map_some]

theorem textOf_map_char (k : String) : textOf (k.toList.map .char) = some k := by
  rw [textOf, joinParts_map_char, Option.map_some, String.ofList_toList]

/-- A number of 64 bits is written as its digits, and nothing else is written for it. -/
theorem spells_amountValue_iff {t : List Char} {n : UInt64} :
    Spells t (amountValue n) ↔ t = Nat.toDigits 10 n.toNat := by
  constructor
  · rintro (_ | _ | _ | ⟨hnumeral, hnumber⟩)
    exact (number?_eq_integer_iff hnumeral n.toNat_lt).1 hnumber
  · rintro rfl
    have hnumeral : IsNumeral (Nat.toDigits 10 n.toNat) :=
      .unsigned (isWhole_toDigits _).isUnsigned
    exact .number hnumeral ((number?_eq_integer_iff hnumeral n.toNat_lt).2 rfl)

/-! ## Fields -/

/-- A number as an item, with white space in front of it. -/
def amountItem (w : List Char) (n : UInt64) : Item := ⟨w, Nat.toDigits 10 n.toNat, [], amountValue n⟩

/-- A field as a member with its text, without white space. -/
def fieldSpelling (f : String × UInt64) : Member where
  before := []
  key := f.1.toList
  parts := f.1.toList.map .char
  after := []
  item := amountItem [] f.2

theorem isSpaces_nil : IsSpaces [] := fun _ h => by cases h

theorem isSpaced_amountItem {w : List Char} (hw : IsSpaces w) (n : UInt64) :
    (amountItem w n).IsSpaced :=
  ⟨hw, isSpaces_nil⟩

/-- An amount is spelled by its digits. -/
theorem spells_amountItem (w : List Char) (n : UInt64) :
    Spells (amountItem w n).text (amountItem w n).value :=
  spells_amountValue_iff.2 rfl

theorem isProper_fieldSpelling {f : String × UInt64} (hf : IsPlainText f.1) :
    (fieldSpelling f).IsProper where
  before := isSpaces_nil
  key := spellsParts_of_plain hf.forall_mem
  after := isSpaces_nil
  item := isSpaced_amountItem isSpaces_nil f.2

theorem member_fieldSpelling (f : String × UInt64) : (fieldSpelling f).member = fieldMember f := by
  rw [Member.member, fieldSpelling, textOf_map_char]
  rfl

theorem toList_fieldText (f : String × UInt64) :
    (fieldText f).toList = (fieldSpelling f).padded := by
  simp [fieldText, fieldSpelling, amountItem, Member.padded, Item.padded, String.toList_append]

/-- Fields in a row are written as members in a row, up to the closing brace. -/
theorem toList_endText (f : String × UInt64) (fs : Fields) :
    (fieldText f).toList ++ (endText fs).toList =
      enclosed '\x7d' (((f :: fs).map fieldSpelling).map Member.padded) := by
  induction fs generalizing f with
  | nil =>
    rw [toList_fieldText]
    exact (enclosed_singleton '\x7d' _).symm
  | cons g fs ih =>
    rw [List.map_cons, List.map_cons, List.map_cons, List.map_cons, enclosed_cons_cons,
      ← List.map_cons, ← List.map_cons, ← ih, toList_fieldText, endText, String.toList_append,
      String.toList_append, List.append_assoc]
    rfl

/-- What is written for fields is a text of their object. -/
theorem isReadFrom_objectText (fs : Fields) (hfs : ∀ f ∈ fs, IsPlainText f.1) :
    (Value.object (fs.map fieldMember)).IsReadFrom (objectText fs) := by
  refine ⟨[], (objectText fs).toList, [], isSpaces_nil, ?_, isSpaces_nil, (List.append_nil _).symm⟩
  cases fs with
  | nil => exact .emptyObject isSpaces_nil
  | cons f fs =>
    have hspells := Spells.object ((f :: fs).map fieldSpelling) (by simp)
      (List.forall_mem_map.2 fun f hf => isProper_fieldSpelling (hfs f hf))
      (List.forall_mem_map.2 fun f _ => spells_amountItem [] f.2)
    rw [← toList_endText, List.map_map] at hspells
    rw [objectText, String.toList_append, String.toList_append, List.append_assoc,
      show fieldMember = Member.member ∘ fieldSpelling from
        funext fun f => (member_fieldSpelling f).symm]
    exact hspells

/-- The text of an object of numbers is that object, and nothing more. -/
theorem read_object {fs : Fields} (hfs : ∀ f ∈ fs, IsPlainText f.1) :
    Value.read (objectText fs) = (.object (fs.map fieldMember), true) :=
  Value.read_of_isReadFrom (isReadFrom_objectText fs hfs)

end OpeningTerms.Json
