import OpeningTerms.Json.Reader
import OpeningTerms.Proofs.NumberTexts

/-!
# Texts of JSON values

What is a text of which value is said without reading it, by one rule for each way to write a value
(`Spells`): the three words, numbers, strings with escapes, arrays and objects, and white space
around whatever stands in them. White space around the whole makes it a text that a value can be
read from (`Value.IsReadFrom`).

Reading follows the rules. A value is read from its text in front of whatever cannot be more of a
number (`Reads`), with a step for each of its characters at most. For the items of an array and for
the members of an object the character behind them tells whether more of them follow
(`items_of_item`, `members_of_member`); one induction over their list serves both
(`read_enclosed`).

* `Spells.reads`: a value is read from its text, and what follows the text is left;
* `Value.read_of_isReadFrom`: from a text as a whole its value is read, and nothing is left.
-/

namespace OpeningTerms.Json

open OpeningTerms.Text

variable {c : Char} {s t rest : List Char}

/-! ## Strings -/

/-- Four hexadecimal digits and their value. -/
inductive IsUnit : List Char → ℕ → Prop
  | intro {c₁ c₂ c₃ c₄ : Char} {d₁ d₂ d₃ d₄ : ℕ} (h₁ : hexValue? c₁ = some d₁)
      (h₂ : hexValue? c₂ = some d₂) (h₃ : hexValue? c₃ = some d₃) (h₄ : hexValue? c₄ = some d₄) :
      IsUnit [c₁, c₂, c₃, c₄] (16 * (16 * (16 * d₁ + d₂) + d₃) + d₄)

/-- The inside of a string, and its parts. -/
inductive SpellsParts : List Char → List Part → Prop
  | nil : SpellsParts [] []
  | char {c : Char} {t : List Char} {ps : List Part} (hc : c ≠ '"' ∧ c ≠ '\\' ∧ 0x20 ≤ c.toNat)
      (h : SpellsParts t ps) : SpellsParts (c :: t) (.char c :: ps)
  | escape {c d : Char} {t : List Char} {ps : List Part} (hc : escapeLetter c = some d)
      (h : SpellsParts t ps) : SpellsParts ('\\' :: c :: t) (.char d :: ps)
  | unit {u t : List Char} {n : ℕ} {ps : List Part} (hu : IsUnit u n) (h : SpellsParts t ps) :
      SpellsParts ('\\' :: 'u' :: (u ++ t)) (.unit n :: ps)

/-- Four hexadecimal digits behind `\u` are one part of a string. -/
theorem stringBody_unit {u : List Char} {n : ℕ} (hu : IsUnit u n) (r : List Char) :
    stringBody .closed ('\\' :: 'u' :: (u ++ r)) =
      (stringBody .closed r).map fun (ps, rest) => (.unit n :: ps, rest) := by
  obtain ⟨h₁, h₂, h₃, h₄⟩ := hu
  simp [stringBody, h₁, h₂, h₃, h₄]

/-- A string ends at the first quote that is no part of it. -/
theorem stringBody_append {ps : List Part} (ht : SpellsParts t ps) (rest : List Char) :
    stringBody .closed (t ++ '"' :: rest) = some (ps, rest) := by
  induction ht with
  | nil => simp [stringBody]
  | char hc h ih =>
    obtain ⟨hquote, hescape, hcontrol⟩ := hc
    rw [List.cons_append, stringBody, if_neg hquote, if_neg hescape, if_neg (not_lt.2 hcontrol), ih]
    rfl
  | @escape c d t ps hc h ih =>
    have hu : c ≠ 'u' := by
      rintro rfl
      cases hc
    simp [stringBody, hu, hc, ih]
  | unit hu h ih =>
    rw [List.cons_append, List.cons_append, List.append_assoc, stringBody_unit hu, ih]
    rfl

/-! ## Values -/

/-- White space. -/
def IsSpaces (w : List Char) : Prop := ∀ c ∈ w, isSpace c

/-- A value and its text, with white space on either side. -/
structure Item where
  before : List Char
  text : List Char
  after : List Char
  value : Value

namespace Item

variable (i : Item)

/-- The text with the white space. -/
def padded : List Char := i.before ++ (i.text ++ i.after)

/-- What is to be white space is white space. -/
structure IsSpaced : Prop where
  before : IsSpaces i.before
  after : IsSpaces i.after

end Item

/-- A key and a value, with white space around each of them. -/
structure Member where
  before : List Char
  /-- The key as it stands between quotes. -/
  key : List Char
  parts : List Part
  after : List Char
  item : Item

namespace Member

variable (m : Member)

/-- The text of a member with all white space. -/
def padded : List Char :=
  m.before ++ '"' :: (m.key ++ '"' :: (m.after ++ ':' :: m.item.padded))

/-- The member that is written. -/
def member : Option String × Value := (textOf m.parts, m.item.value)

/-- The key has its parts, and what is to be white space is white space. -/
structure IsProper : Prop where
  before : IsSpaces m.before
  key : SpellsParts m.key m.parts
  after : IsSpaces m.after
  item : m.item.IsSpaced

end Member

/-- Pieces with commas between them, up to the closing bracket. -/
def enclosed (close : Char) (pieces : List (List Char)) : List Char :=
  List.intercalate [','] pieces ++ [close]

/-- The text of a value, without white space around it. -/
inductive Spells : List Char → Value → Prop
  | null : Spells ['n', 'u', 'l', 'l'] .null
  | true : Spells ['t', 'r', 'u', 'e'] (.boolean true)
  | false : Spells ['f', 'a', 'l', 's', 'e'] (.boolean false)
  | number {t : List Char} {n : Number} (ht : IsNumeral t) (hn : number? t = some (n, [])) :
      Spells t (.number n)
  | text {t : List Char} {ps : List Part} (ht : SpellsParts t ps) :
      Spells ('"' :: (t ++ ['"'])) (.text (textOf ps))
  | emptyArray {w : List Char} (hw : IsSpaces w) : Spells ('[' :: (w ++ [']'])) (.array [])
  | array (is : List Item) (hne : is ≠ []) (hspaced : ∀ i ∈ is, i.IsSpaced)
      (h : ∀ i ∈ is, Spells i.text i.value) :
      Spells ('[' :: enclosed ']' (is.map Item.padded)) (.array (is.map Item.value))
  | emptyObject {w : List Char} (hw : IsSpaces w) : Spells ('\x7b' :: (w ++ ['\x7d'])) (.object [])
  | object (ms : List Member) (hne : ms ≠ []) (hproper : ∀ m ∈ ms, m.IsProper)
      (h : ∀ m ∈ ms, Spells m.item.text m.item.value) :
      Spells ('\x7b' :: enclosed '\x7d' (ms.map Member.padded)) (.object (ms.map Member.member))

/-- A text with white space around the text of a value. -/
def Value.IsReadFrom (v : Value) (text : String) : Prop :=
  ∃ u t w, IsSpaces u ∧ Spells t v ∧ IsSpaces w ∧ text.toList = u ++ (t ++ w)

theorem enclosed_singleton (close : Char) (p : List Char) : enclosed close [p] = p ++ [close] := by
  rw [enclosed, List.intercalate_singleton]

/-- A piece that others follow ends with a comma. -/
theorem enclosed_cons_cons (close : Char) (p q : List Char) (ps : List (List Char)) :
    enclosed close (p :: q :: ps) = p ++ ',' :: enclosed close (q :: ps) := by
  rw [enclosed, List.intercalate_cons_cons, List.append_assoc, List.append_assoc]
  rfl

/-! ## Reading -/

/-- White space is skipped, however much there is. -/
theorem skipSpace_append {w : List Char} (hw : IsSpaces w) (s : List Char) :
    skipSpace (w ++ s) = skipSpace s :=
  List.dropWhile_append_of_pos hw

theorem skipSpace_cons (hc : isSpace c = false) (s : List Char) : skipSpace (c :: s) = c :: s :=
  List.dropWhile_cons_of_neg (by simp [hc])

theorem skipSpace_append_cons {w : List Char} (hw : IsSpaces w) (hc : isSpace c = false)
    (s : List Char) : skipSpace (w ++ c :: s) = c :: s := by
  rw [skipSpace_append hw, skipSpace_cons hc]

/-- What is skipped is white space in front of what is left. -/
theorem exists_spaces (s : List Char) : ∃ w, IsSpaces w ∧ s = w ++ skipSpace s :=
  ⟨s.takeWhile isSpace, fun _ hc => List.all_eq_true.1 List.all_takeWhile _ hc,
    List.takeWhile_append_dropWhile.symm⟩

/-- White space in front of a value does not matter. -/
theorem value_append {w : List Char} (hw : IsSpaces w) (fuel : ℕ) (s : List Char) :
    value fuel (w ++ s) = value fuel s := by
  cases fuel with
  | zero => rw [value, value]
  | succ fuel =>
    rw [value.eq_def, value.eq_def (fuel + 1) s]
    simp only [skipSpace_append hw]

theorem value_skipSpace (fuel : ℕ) (s : List Char) : value fuel (skipSpace s) = value fuel s := by
  obtain ⟨w, hw, hs⟩ := exists_spaces s
  calc value fuel (skipSpace s) = value fuel (w ++ skipSpace s) := (value_append hw _ _).symm
    _ = value fuel s := by rw [← hs]

/-- Each character of a text is worth a step. -/
theorem exists_fuel (p : List Char) {fuel : ℕ} (hfuel : (p ++ c :: t).length ≤ fuel) :
    ∃ k, fuel = k + 1 ∧ p.length ≤ k ∧ t.length ≤ k := by
  rw [List.length_append, List.length_cons] at hfuel
  exact ⟨fuel - 1, by omega, by omega, by omega⟩

theorem endsNumber_of_isSpace (hc : isSpace c) : EndsNumber c := by
  simp only [isSpace, Bool.or_eq_true, beq_iff_eq] at hc
  rcases hc with ((rfl | rfl) | rfl) | rfl
  all_goals exact ⟨rfl, by decide, by decide, by decide⟩

/-- A number ends in front of white space, too. -/
theorem ends_append {w : List Char} (hw : IsSpaces w) (hrest : Ends rest) : Ends (w ++ rest) := by
  rcases w with _ | ⟨c, w⟩
  · exact hrest
  · exact ends_cons (endsNumber_of_isSpace (hw c List.mem_cons_self))

/-- What begins neither with white space nor with a closing bracket. -/
def Begins (t : List Char) : Prop := ∃ c r, t = c :: r ∧ isSpace c = false ∧ c ≠ ']'

/-- What begins a number is neither white space nor a closing bracket. -/
theorem begins_of_isDecimal (hc : isDecimal c ∨ c = '-') : isSpace c = false ∧ c ≠ ']' := by
  rcases hc with hc | rfl
  · have hne {d : Char} (hd : isDecimal d = false) := ne_of_isDecimal hc hd
    refine ⟨?_, hne rfl⟩
    simp [isSpace, hne (d := ' ') rfl, hne (d := '\n') rfl, hne (d := '\t') rfl,
      hne (d := '\r') rfl]
  · decide

/-- The text of a value does not begin as white space or the end of an array does. -/
theorem Spells.begins {v : Value} (h : Spells t v) : Begins t := by
  cases h with
  | number ht =>
    obtain ⟨c, r, rfl, hc⟩ := ht.exists_cons
    exact ⟨c, r, rfl, begins_of_isDecimal hc⟩
  | _ => exact ⟨_, _, rfl, by decide, by decide⟩

/-- The text is read as the value in front of any text that it ends before. A character of it is
    worth a step. -/
def Reads (t : List Char) (v : Value) : Prop :=
  ∀ fuel rest, t.length ≤ fuel → Ends rest → value fuel (t ++ rest) = (v, some rest)

/-- A number is read to where it ends. -/
theorem reads_number {n : Number} (ht : IsNumeral t) (hn : number? t = some (n, [])) :
    Reads t (.number n) := by
  intro fuel rest hfuel hrest
  have hnumber := (number?_append_iff ht hrest).2 hn
  obtain ⟨c, r, rfl, hc⟩ := ht.exists_cons
  rw [List.cons_append] at hnumber ⊢
  -- Its first character tells a number from everything else that a value can be.
  have hskip := skipSpace_cons (begins_of_isDecimal hc).1 (r ++ rest)
  have hne {d : Char} (hd : isDecimal d = false) (hd' : d ≠ '-') : c ≠ d := by
    rcases hc with hc | rfl
    · exact ne_of_isDecimal hc hd
    · exact hd'.symm
  have hword {d : Char} (hd : isDecimal d = false) (hd' : d ≠ '-') (w : List Char) :
      afterWord (d :: w) (c :: (r ++ rest)) = none := by
    simp [afterWord, (hne hd hd').symm]
  obtain ⟨k, rfl, -⟩ := exists_fuel [] hfuel
  rw [value, hskip]
  split
  · exact absurd (List.cons.inj ‹_›).1 (hne rfl (by decide))
  · exact absurd (List.cons.inj ‹_›).1 (hne rfl (by decide))
  · exact absurd (List.cons.inj ‹_›).1 (hne rfl (by decide))
  · simp only [plainValue, hword (d := 'n') rfl (by decide), hword (d := 't') rfl (by decide),
      hword (d := 'f') rfl (by decide), hnumber]

/-- A string is read to its closing quote. -/
theorem reads_text {ps : List Part} (ht : SpellsParts t ps) :
    Reads ('"' :: (t ++ ['"'])) (.text (textOf ps)) := by
  intro fuel rest hfuel hrest
  obtain ⟨k, rfl, -⟩ := exists_fuel [] hfuel
  rw [List.cons_append, List.append_assoc, List.singleton_append, value.eq_def]
  simp only [skipSpace_cons (c := '"') rfl, stringBody_append ht]

/-! ### Items -/

/-- An item is read to the end of its text, and leaves the white space behind it. -/
theorem value_padded {i : Item} (hi : i.IsSpaced) (hreads : Reads i.text i.value) {fuel : ℕ}
    (hfuel : i.padded.length ≤ fuel) (hrest : Ends rest) :
    value fuel (i.padded ++ rest) = (i.value, some (i.after ++ rest)) := by
  have hlength : i.text.length ≤ fuel := by
    simp only [Item.padded, List.length_append] at hfuel
    omega
  rw [Item.padded, List.append_assoc, value_append hi.before, List.append_assoc,
    hreads fuel _ hlength (ends_append hi.after hrest)]

/-- An item of an array: the character behind it tells whether it is the last. -/
theorem items_of_item {i : Item} (hi : i.IsSpaced) (hbegins : Begins i.text)
    (hreads : Reads i.text i.value) {fuel : ℕ} (hfuel : i.padded.length ≤ fuel) (isFirst : Bool)
    (rest : List Char) :
    items (fuel + 1) isFirst (i.padded ++ ']' :: rest) = ([i.value], some rest) ∧
      items (fuel + 1) isFirst (i.padded ++ ',' :: rest) =
        (i.value :: (items fuel false rest).1, (items fuel false rest).2) := by
  obtain ⟨c, r, htext, hc, hbracket⟩ := hbegins
  have hskip (d : Char) :
      skipSpace (i.padded ++ d :: rest) = c :: (r ++ (i.after ++ d :: rest)) := by
    rw [Item.padded, List.append_assoc, htext, List.append_assoc, List.cons_append,
      skipSpace_append_cons hi.before hc]
  have hvalue {d : Char} (hd : EndsNumber d) :
      value fuel (c :: (r ++ (i.after ++ d :: rest))) = (i.value, some (i.after ++ d :: rest)) := by
    rw [← hskip, value_skipSpace, value_padded hi hreads hfuel (ends_cons hd)]
  have hafter {d : Char} (hd : isSpace d = false) := skipSpace_append_cons hi.after hd rest
  -- A closing bracket in front would end the array, but no item begins with it.
  constructor
  · rw [items.eq_def]
    simp only [hskip]
    split
    · exact absurd (List.cons.inj ‹_›).1 hbracket
    · simp only [hvalue endsNumber_bracket, hafter (d := ']') rfl]
  · rw [items.eq_def]
    simp only [hskip]
    split
    · exact absurd (List.cons.inj ‹_›).1 hbracket
    · simp only [hvalue endsNumber_comma, hafter (d := ',') rfl]

/-! ### Members -/

/-- A member of an object: the character behind it tells whether it is the last. -/
theorem members_of_member {m : Member} (hm : m.IsProper) (hreads : Reads m.item.text m.item.value)
    {fuel : ℕ} (hfuel : m.padded.length ≤ fuel) (isFirst : Bool) (rest : List Char) :
    members (fuel + 1) isFirst (m.padded ++ '\x7d' :: rest) = ([m.member], some rest) ∧
      members (fuel + 1) isFirst (m.padded ++ ',' :: rest) =
        (m.member :: (members fuel false rest).1, (members fuel false rest).2) := by
  have hlength : m.item.padded.length ≤ fuel := by
    simp only [Member.padded, List.length_append, List.length_cons] at hfuel
    omega
  have hskip (d : Char) : skipSpace (m.padded ++ d :: rest) =
      '"' :: (m.key ++ '"' :: (m.after ++ ':' :: (m.item.padded ++ d :: rest))) := by
    rw [Member.padded, List.append_assoc, List.cons_append, skipSpace_append_cons hm.before rfl,
      List.append_assoc, List.cons_append, List.append_assoc, List.cons_append]
  have hcolon (s : List Char) := skipSpace_append_cons (c := ':') hm.after rfl s
  have hvalue {d : Char} (hd : EndsNumber d) :
      value fuel (m.item.padded ++ d :: rest) = (m.item.value, some (m.item.after ++ d :: rest)) :=
    value_padded hm.item hreads hlength (ends_cons hd)
  have hafter {d : Char} (hd : isSpace d = false) := skipSpace_append_cons hm.item.after hd rest
  constructor
  · rw [members.eq_def]
    simp only [hskip, stringBody_append hm.key, hcolon,
      hvalue endsNumber_brace, hafter (d := '\x7d') rfl]
    rfl
  · rw [members.eq_def]
    simp only [hskip, stringBody_append hm.key, hcolon,
      hvalue endsNumber_comma, hafter (d := ',') rfl]
    rfl

/-! ### Lists of items and of members -/

/-- Pieces are read up to the closing bracket if each of them is: as the last one, and as one that
    others follow. -/
theorem read_enclosed {α β : Type} (read : ℕ → Bool → List Char → List β × Option (List Char))
    (close : Char) {padded : α → List Char} {result : α → β} {as : List α} (hne : as ≠ [])
    (hread : ∀ a ∈ as, ∀ fuel isFirst rest, (padded a).length ≤ fuel →
      read (fuel + 1) isFirst (padded a ++ close :: rest) = ([result a], some rest) ∧
        read (fuel + 1) isFirst (padded a ++ ',' :: rest) =
          (result a :: (read fuel false rest).1, (read fuel false rest).2))
    {fuel : ℕ} (hfuel : (enclosed close (as.map padded)).length ≤ fuel) (isFirst : Bool)
    (rest : List Char) :
    read fuel isFirst (enclosed close (as.map padded) ++ rest) = (as.map result, some rest) := by
  induction as generalizing fuel isFirst with
  | nil => exact absurd rfl hne
  | cons a as ih =>
    rw [List.forall_mem_cons] at hread
    rcases as with _ | ⟨b, bs⟩
    · rw [List.map_singleton, enclosed_singleton] at hfuel ⊢
      obtain ⟨k, rfl, hk, -⟩ := exists_fuel _ hfuel
      rw [List.append_assoc]
      exact (hread.1 k isFirst rest hk).1
    · rw [List.map_cons, List.map_cons, enclosed_cons_cons, ← List.map_cons] at hfuel ⊢
      obtain ⟨k, rfl, hk, hk'⟩ := exists_fuel _ hfuel
      -- Behind the comma there is a step less for the others, and they need no more.
      have hrest : read k false (enclosed close ((b :: bs).map padded) ++ rest) =
          ((b :: bs).map result, some rest) :=
        ih (List.cons_ne_nil b bs) hread.2 hk' false
      rw [List.append_assoc, List.cons_append, (hread.1 k isFirst _ hk).2, hrest]
      rfl

/-- A value is read from its text, whatever the text that it ends before. -/
theorem Spells.reads {v : Value} (h : Spells t v) : Reads t v := by
  induction h with
  | null | true | false =>
    intro fuel rest hfuel hrest
    obtain ⟨k, rfl, -⟩ := exists_fuel [] hfuel
    rfl
  | number ht hn => exact reads_number ht hn
  | text ht => exact reads_text ht
  | @emptyArray w hw =>
    intro fuel rest hfuel hrest
    obtain ⟨k, rfl, -, hk⟩ := exists_fuel [] hfuel
    obtain ⟨k, rfl, -⟩ := exists_fuel _ hk
    rw [List.cons_append, List.append_assoc, value.eq_def]
    simp only [skipSpace_cons (c := '[') rfl]
    rw [items.eq_def]
    simp only [List.singleton_append, skipSpace_append_cons (c := ']') hw rfl]
  | array is hne hspaced h ih =>
    intro fuel rest hfuel hrest
    obtain ⟨k, rfl, -, hk⟩ := exists_fuel [] hfuel
    have hread := read_enclosed items ']' hne (fun i hi fuel isFirst rest hlength =>
        items_of_item (hspaced i hi) (h i hi).begins (ih i hi) hlength isFirst rest)
      hk Bool.true rest
    rw [List.cons_append, value.eq_def]
    simp only [skipSpace_cons (c := '[') rfl, hread]
  | @emptyObject w hw =>
    intro fuel rest hfuel hrest
    obtain ⟨k, rfl, -, hk⟩ := exists_fuel [] hfuel
    obtain ⟨k, rfl, -⟩ := exists_fuel _ hk
    rw [List.cons_append, List.append_assoc, value.eq_def]
    simp only [skipSpace_cons (c := '\x7b') rfl]
    rw [members.eq_def]
    simp only [List.singleton_append, skipSpace_append_cons (c := '\x7d') hw rfl]
  | object ms hne hproper h ih =>
    intro fuel rest hfuel hrest
    obtain ⟨k, rfl, -, hk⟩ := exists_fuel [] hfuel
    have hread := read_enclosed members '\x7d' hne (fun m hm fuel isFirst rest hlength =>
        members_of_member (hproper m hm) (ih m hm) hlength isFirst rest)
      hk Bool.true rest
    rw [List.cons_append, value.eq_def]
    simp only [skipSpace_cons (c := '\x7b') rfl, hread]

/-- A text is read as the value that it is written for, and nothing is left over. -/
theorem Value.read_of_isReadFrom {v : Value} {text : String} (h : v.IsReadFrom text) :
    Value.read text = (v, true) := by
  obtain ⟨u, t, w, hu, ht, hw, htext⟩ := h
  have hvalue : value (text.toList.length + 1) text.toList = (v, some w) := by
    have hreads := ht.reads (text.toList.length + 1) w
      (by rw [htext, List.length_append, List.length_append]; omega)
      (by rw [← List.append_nil w]; exact ends_append hw ends_nil)
    rw [← hreads, htext, value_append hu]
  have hskip : skipSpace w = [] := by
    rw [← List.append_nil w, skipSpace_append hw]
    rfl
  simp only [Value.read, hvalue, hskip, decide_true]

/-! ## Parts of a value -/

/-- The items of an array have texts of their own. -/
theorem Spells.of_array {vs : List Value} (h : Spells t (.array vs)) :
    ∀ v ∈ vs, ∃ t, Spells t v := by
  cases h with
  | emptyArray => simp
  | array is hne hspaced h => exact List.forall_mem_map.2 fun i hi => ⟨i.text, h i hi⟩

/-- The values of an object have texts of their own. -/
theorem Spells.of_object {ms : List (Option String × Value)} (h : Spells t (.object ms)) :
    ∀ m ∈ ms, ∃ t, Spells t m.2 := by
  cases h with
  | emptyObject => simp
  | object ms hne hproper h => exact List.forall_mem_map.2 fun m hm => ⟨m.item.text, h m hm⟩

theorem itemsAreWhole_iff {vs : List Value} : itemsAreWhole vs ↔ ∀ v ∈ vs, v.isWhole := by
  induction vs with
  | nil => simp [itemsAreWhole]
  | cons v vs ih => rw [itemsAreWhole, Bool.and_eq_true, ih, List.forall_mem_cons]

theorem membersAreWhole_iff {ms : List (Option String × Value)} :
    membersAreWhole ms ↔ ∀ m ∈ ms, m.2.isWhole := by
  induction ms with
  | nil => simp [membersAreWhole]
  | cons m ms ih => rw [membersAreWhole, Bool.and_eq_true, ih, List.forall_mem_cons]

/-- What has a text has no broken part. -/
theorem Spells.isWhole {v : Value} (h : Spells t v) : v.isWhole := by
  induction h with
  | null | true | false | number | text | emptyArray | emptyObject => rfl
  | array is hne hspaced h ih =>
    rw [Value.isWhole, itemsAreWhole_iff, List.forall_mem_map]
    exact ih
  | object ms hne hproper h ih =>
    rw [Value.isWhole, membersAreWhole_iff, List.forall_mem_map]
    exact ih

end OpeningTerms.Json
