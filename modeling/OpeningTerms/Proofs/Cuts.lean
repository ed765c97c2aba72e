import Mathlib.Data.List.Basic
import OpeningTerms.Log.Filter

/-!
# Where parts can be cut

A part of a directive can be cut out of the text at offsets where a character begins. The scanners
only come to places between the characters of the directive (`Log.At`), and as long as these are
places between characters of the text with the white space around it, too, no cut fails. This is so
if there is no white space in front of the directive, as nothing is shifted then, and if every
character takes one byte.

* `Directive.ofText_ne_brokenOff`: a directive whose places are places of the text is read or
  rejected;
* `Filter.exists_isShifted`: where the reader of filters breaks off, there is a directive behind
  white space, and in it a character of several bytes.
-/

namespace OpeningTerms.Log

open OpeningTerms.Text

variable {s t rest a b : List Char} {n m offset : ℕ}

/-! ## Places -/

/-- From the byte `offset` of `s` on, `rest` is left. -/
def At (s : List Char) (offset : ℕ) (rest : List Char) : Prop :=
  ∃ before, s = before ++ rest ∧ byteLength before = offset

/-- A character of `s` begins at the byte `n`, or `s` ends there. -/
def IsBoundary (s : List Char) (n : ℕ) : Prop := ∃ rest, At s n rest

/-- Bytes of texts in a row add up. -/
theorem byteLength_append (s t : List Char) :
    byteLength (s ++ t) = byteLength s + byteLength t := by
  induction s with
  | nil => exact (Nat.zero_add _).symm
  | cons c s ih => rw [List.cons_append, byteLength, byteLength, ih, Nat.add_assoc]

/-- Every character takes some bytes. -/
theorem eq_nil_of_byteLength (h : byteLength s = 0) : s = [] := by
  cases s with
  | nil => rfl
  | cons c s =>
    have hc := c.utf8Size_pos
    rw [byteLength] at h
    omega

/-- At the beginning, everything is left. -/
theorem At.start (s : List Char) : At s 0 s := ⟨[], rfl, rfl⟩

theorem At.isBoundary (h : At s offset rest) : IsBoundary s offset := ⟨rest, h⟩

/-- To scan a part is to go on by its bytes. -/
theorem At.append (h : At s offset (a ++ b)) : At s (offset + byteLength a) b := by
  obtain ⟨before, rfl, rfl⟩ := h
  exact ⟨before ++ a, (List.append_assoc ..).symm, byteLength_append before a⟩

theorem At.cons {c : Char} (h : At s offset (c :: rest)) : At s (offset + c.utf8Size) rest :=
  At.append (a := [c]) h

/-- To scan a character of one byte is to go on by one. -/
theorem At.tail {c : Char} (h : At s offset (c :: rest)) (hc : c.utf8Size = 1) :
    At s (offset + 1) rest := hc ▸ h.cons

/-- To scan a run is to go on by its bytes. -/
theorem At.dropWhile (h : At s offset rest) (p : Char → Bool) :
    At s (offset + byteLength (rest.takeWhile p)) (rest.dropWhile p) :=
  At.append (by rwa [List.takeWhile_append_dropWhile])

/-- Of two places, the text between them is before the later one. -/
theorem At.exists_append (h : At s n a) (h' : At s m b) (hle : n ≤ m) :
    ∃ part, a = part ++ b ∧ byteLength part = m - n := by
  obtain ⟨before, rfl, rfl⟩ := h
  obtain ⟨before', heq, rfl⟩ := h'
  rcases List.append_eq_append_iff.1 heq with ⟨part, rfl, rfl⟩ | ⟨part, rfl, rfl⟩
  · exact ⟨part, rfl, by rw [byteLength_append, Nat.add_sub_cancel_left]⟩
  · -- The earlier place is not behind the later one, so there is nothing between them.
    rw [byteLength_append] at hle
    obtain rfl : part = [] := eq_nil_of_byteLength (by omega)
    exact ⟨[], rfl, by simp [byteLength]⟩

/-! ## Cuts -/

/-- Between two places, a part can be cut out. -/
theorem exists_cut (hn : IsBoundary s n) (hm : IsBoundary s m) (hle : n ≤ m) :
    ∃ part, cut s n m = .ok part := by
  obtain ⟨a, hn⟩ := hn
  obtain ⟨b, hm⟩ := hm
  obtain ⟨part, rfl, hpart⟩ := hn.exists_append hm hle
  obtain ⟨before, rfl, rfl⟩ := hn
  rw [cut, dropBytes_append, Option.bind_some, ← hpart, takeBytes_append]
  exact ⟨part, rfl⟩

/-- From a place on, all that is left can be cut out. -/
theorem exists_cutFrom (hn : IsBoundary s n) : ∃ part, cutFrom s n = .ok part := by
  obtain ⟨a, before, rfl, rfl⟩ := hn
  rw [cutFrom, dropBytes_append]
  exact ⟨a, rfl⟩

/-- What is left behind a run begins with a character that is no part of it. -/
theorem not_of_dropWhile {p : Char → Bool} {c : Char} (h : s.dropWhile p = c :: rest) :
    p c = false := by
  have hc := List.head?_dropWhile_not p s
  rw [h] at hc
  exact hc

/-! ## Readers that do not break off -/

section

variable {α β : Type}

/-- The reader does not break off: there is a result, or the text is rejected. -/
def Unbroken (x : Except FilterError α) : Prop := x ≠ .error .brokenOff

theorem unbroken_ok (y : α) : Unbroken (.ok y) := by rintro ⟨⟩

theorem unbroken_invalid (fault : FilterFault) :
    Unbroken (.error (.invalid fault) : Except _ α) := by
  rintro ⟨⟩

/-- Readers in a row do not break off if none of them does. -/
theorem Unbroken.bind {x : Except FilterError α} {f : α → Except FilterError β} (hx : Unbroken x)
    (hf : ∀ y, Unbroken (f y)) : Unbroken (x >>= f) := by
  rcases x with e | y
  · exact fun h => hx (congrArg Except.error (Except.error.inj h))
  · exact hf y

end

/-- The reader of levels cuts nothing out. -/
theorem unbroken_levelOf (s : List Char) : Unbroken (levelOf s) := by
  rw [levelOf]
  split_ifs
  · exact unbroken_ok _
  · split
    · exact unbroken_ok _
    · exact unbroken_invalid _

theorem unbroken_fieldOf (s : List Char) : Unbroken (fieldOf s) := by
  rw [fieldOf]
  split
  · exact unbroken_ok _
  · dsimp only
    split
    · exact unbroken_invalid _
    · exact unbroken_ok _

section

/-! ### Scanners

The directive `t` is scanned, and the places of `t` are places of the text `full` that its parts are
cut out of. -/

variable {full : List Char} (hfull : ∀ n, IsBoundary t n → IsBoundary full n) (d : Directive)

include hfull

/-- Between places of the directive, a part can be cut out of the text around it. -/
theorem unbroken_cut (hn : At t n a) (hm : At t m b) (hle : n ≤ m) : Unbroken (cut full n m) := by
  obtain ⟨part, hpart⟩ := exists_cut (hfull n hn.isBoundary) (hfull m hm.isBoundary) hle
  rw [hpart]
  exact unbroken_ok part

/-- A directive ends where it ends, or with a level behind an equals sign. -/
theorem unbroken_scanEnd (h : At t offset rest) : Unbroken (scanEnd full d offset rest) := by
  unfold scanEnd
  split
  · exact unbroken_ok d
  · obtain ⟨part, hpart⟩ := exists_cutFrom (hfull _ (h.tail rfl).isBoundary)
    rw [hpart]
    exact (unbroken_levelOf part).bind fun v => unbroken_ok _
  · exact unbroken_invalid _

/-- A field ends at a closing brace, which takes one byte, as the closing bracket behind it does. -/
theorem unbroken_scanField (h : At t offset rest) : Unbroken (scanField full d offset rest) := by
  have hrun := h.dropWhile (· != '\x7d')
  unfold scanField
  split
  · next brace after hrest =>
    rw [hrest] at hrun
    -- The run has stopped at the first closing brace.
    obtain rfl : brace = '\x7d' := by simpa using not_of_dropWhile hrest
    refine (unbroken_cut hfull h hrun (Nat.le_add_right _ _)).bind fun text => ?_
    split_ifs
    · exact unbroken_invalid _
    · refine (unbroken_fieldOf text).bind fun field => ?_
      split
      · exact unbroken_scanEnd hfull _ ((hrun.tail rfl).tail rfl)
      · exact unbroken_invalid _
  · exact unbroken_invalid _

/-- A span ends at a closing bracket or at an opening brace. -/
theorem unbroken_scanSpan (h : At t offset rest) : Unbroken (scanSpan full d offset rest) := by
  have hrun := h.dropWhile fun c => c != ']' && c != '\x7b'
  have hspan := unbroken_cut hfull h hrun (Nat.le_add_right _ _)
  unfold scanSpan
  dsimp only
  split
  · next after hrest =>
    rw [hrest] at hrun
    exact hspan.bind fun span => unbroken_scanEnd hfull _ (hrun.tail rfl)
  · next c after hbracket hrest =>
    rw [hrest] at hrun
    obtain rfl : c = '\x7b' := by
      have hc := not_of_dropWhile hrest
      rw [Bool.and_eq_false_iff] at hc
      rcases hc with hc | hc
      · exact absurd (by simpa using hc) hbracket
      · simpa using hc
    exact hspan.bind fun span => unbroken_scanField hfull _ (hrun.tail rfl)
  · exact unbroken_invalid _

/-- A name ends at an equals sign, at an opening bracket, or with the directive. -/
theorem unbroken_scanName : Unbroken (scanName full t) := by
  have hstart := At.start t
  have hrun := hstart.dropWhile fun c => c != '=' && c != '['
  rw [Nat.zero_add] at hrun
  have htarget := unbroken_cut hfull hstart hrun (Nat.zero_le _)
  unfold scanName
  dsimp only
  split
  · split
    · exact unbroken_ok _
    · exact unbroken_ok _
  · next after hrest =>
    rw [hrest] at hrun
    exact htarget.bind fun target => unbroken_scanSpan hfull _ (hrun.tail rfl)
  · exact htarget.bind fun target => unbroken_scanEnd hfull _ hrun

end

/-- A directive is read or rejected if its places are places of the text around it. -/
theorem Directive.ofText_ne_brokenOff {full : List Char}
    (hfull : ∀ n, IsBoundary (trimChars full) n → IsBoundary full n) :
    Directive.ofText full ≠ .error .brokenOff := by
  rw [← Unbroken]
  unfold Directive.ofText
  split
  · exact unbroken_invalid _
  · next rest hrest =>
    have hstart := At.start (trimChars full)
    rw [hrest] at hstart hfull
    -- Behind the opening bracket, which takes one byte.
    have hone := hstart.tail rfl
    rw [Nat.zero_add] at hone
    exact unbroken_scanSpan hfull _ hone
  · next c rest _ hrest =>
    split_ifs
    · exact unbroken_scanName (hrest ▸ hfull)
    · exact unbroken_invalid _

/-! ## Shifted directives -/

/-- There is white space in front of the directive, and some character of it takes several bytes. -/
def IsShifted (part : List Char) : Prop :=
  (∃ c rest, part = c :: rest ∧ isBlank c) ∧ ∃ c ∈ part, c.utf8Size ≠ 1

/-- If all characters take one byte, there are as many bytes as characters. -/
theorem byteLength_eq_length (h : ∀ c ∈ s, c.utf8Size = 1) : byteLength s = s.length := by
  induction s with
  | nil => rfl
  | cons c s ih =>
    rw [List.forall_mem_cons] at h
    rw [byteLength, h.1, ih h.2, List.length_cons, Nat.add_comm]

/-- If all characters take one byte, one begins at each offset. -/
theorem isBoundary_of_le (h : ∀ c ∈ s, c.utf8Size = 1) (hn : n ≤ s.length) : IsBoundary s n := by
  refine ⟨s.drop n, s.take n, (List.take_append_drop n s).symm, ?_⟩
  rw [byteLength_eq_length fun c hc => h c (List.mem_of_mem_take hc), List.length_take,
    Nat.min_eq_left hn]

/-- The places of a directive that is not shifted are places of the text around it. -/
theorem isBoundary_of_not_isShifted {full : List Char} (h : ¬IsShifted full)
    (hn : IsBoundary (trimChars full) n) : IsBoundary full n := by
  obtain ⟨u, v, hu, -, heq⟩ := trimChars_eq full
  obtain ⟨rest, before, hrest, rfl⟩ := hn
  rw [hrest] at heq
  cases u with
  | nil =>
    -- Nothing is in front, so that the directive begins where the text does.
    exact ⟨rest ++ v, before, by rw [heq]; simp, rfl⟩
  | cons c u =>
    -- White space is in front, so if not all characters took one byte, it would be shifted.
    have hone : ∀ d ∈ full, d.utf8Size = 1 := by
      by_contra hsome
      push Not at hsome
      exact h ⟨⟨c, _, heq, hu c List.mem_cons_self⟩, hsome⟩
    have hbefore : ∀ d ∈ before, d.utf8Size = 1 := fun d hd => hone d (by rw [heq]; simp [hd])
    refine isBoundary_of_le hone ?_
    rw [byteLength_eq_length hbefore, heq]
    simp only [List.length_append]
    omega

/-- Of texts that are read in turn, one is responsible for what stops the reader. -/
theorem exists_of_mapM_eq_error {f : List Char → Except FilterError Directive}
    {parts : List (List Char)} {e : FilterError} (h : parts.mapM f = .error e) :
    ∃ part ∈ parts, f part = .error e := by
  induction parts with
  | nil => cases h
  | cons part parts ih =>
    rw [List.mapM_cons] at h
    rcases hpart : f part with e' | d
    · rw [hpart] at h
      cases h
      exact ⟨part, List.mem_cons_self, hpart⟩
    · rw [hpart] at h
      rcases hparts : parts.mapM f with e' | ds
      · rw [hparts] at h
        cases h
        obtain ⟨part', hmem, heq⟩ := ih hparts
        exact ⟨part', List.mem_cons_of_mem _ hmem, heq⟩
      · rw [hparts] at h
        cases h

/-- The reader of filters breaks off at a shifted directive only. So it reads or rejects every text
    in which no white space stands in front of a directive, and every text of ASCII. -/
theorem Filter.exists_isShifted {text : String} (h : Filter.ofText text = .error .brokenOff) :
    ∃ part ∈ splitCommas text.toList, IsShifted part := by
  obtain ⟨part, hmem, hpart⟩ := exists_of_mapM_eq_error h
  refine ⟨part, List.mem_of_mem_filter hmem, ?_⟩
  by_contra hshifted
  exact Directive.ofText_ne_brokenOff (fun n => isBoundary_of_not_isShifted hshifted) hpart

end OpeningTerms.Log
