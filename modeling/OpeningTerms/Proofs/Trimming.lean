import Mathlib.Data.List.DropRight
import OpeningTerms.Settings

/-!
# The filter without the white space around it

The white space of a text is cut off at either end. What is left is *bare*: it neither begins nor
ends with white space. It is the only bare text that makes up the whole one with white space on
either side (`trimChars_eq`), from which all else follows: a bare text is left as it is, and more
white space at the ends changes nothing.

White space is what has the property `White_Space`; the characters that have it are listed here one
by one (`whiteSpace`), and no others are cut off (`isBlank_iff`).

* `logFilter_trimmed`: the filter of the log is bare and never empty; it is what was set, but for
  the white space at the ends, unless white space is all that was set.
-/

namespace OpeningTerms

namespace Text

variable {c : Char} {s u v : List Char}

/-! ## White space, one by one -/

/-- The characters with the property `White_Space`. -/
def whiteSpace : List Char := [
  '\t', '\n', '\x0b', '\x0c', '\r', ' ', '\u0085', '\u00a0', '\u1680',
  '\u2000', '\u2001', '\u2002', '\u2003', '\u2004', '\u2005', '\u2006', '\u2007', '\u2008',
  '\u2009', '\u200a', '\u2028', '\u2029', '\u202f', '\u205f', '\u3000']

/-- Nothing but white space. -/
def IsWhite (s : List Char) : Prop := ∀ c ∈ s, c ∈ whiteSpace

/-- What neither begins nor ends with white space. -/
structure IsBare (s : List Char) : Prop where
  head : ∀ c, s.head? = some c → c ∉ whiteSpace
  getLast : ∀ c, s.getLast? = some c → c ∉ whiteSpace

/-- White space is known by its code points. -/
theorem mem_whiteSpace_iff : c ∈ whiteSpace ↔ c.toNat ∈ whiteSpace.map Char.toNat := by
  rw [List.mem_map]
  refine ⟨fun h => ⟨c, h, rfl⟩, ?_⟩
  rintro ⟨d, hd, h⟩
  rwa [← Char.toNat_inj.1 h]

/-- The runs of white space hold these characters and no others. -/
theorem isBlank_iff : isBlank c ↔ c ∈ whiteSpace := by
  rw [mem_whiteSpace_iff, isBlank, inRanges_eq_true_iff]
  -- The code points, to be compared with the bounds of the runs.
  have hcodes : whiteSpace.map Char.toNat = [9, 10, 11, 12, 13, 32, 0x85, 0xa0, 0x1680,
    0x2000, 0x2001, 0x2002, 0x2003, 0x2004, 0x2005, 0x2006, 0x2007, 0x2008,
    0x2009, 0x200a, 0x2028, 0x2029, 0x202f, 0x205f, 0x3000] := rfl
  rw [hcodes]
  simp only [blankRuns, List.mem_cons, List.not_mem_nil, or_false, exists_eq_or_imp,
    exists_eq_left]
  omega

/-- Zero-width characters and the byte order mark are no white space. -/
example : ['\u180e', '\u200b', '\u2060', '\ufeff'].all (· ∉ whiteSpace) := by decide

/-- The white space that is listed is that which is cut off. -/
theorem isWhite_iff : IsWhite s ↔ ∀ c ∈ s, isBlank c :=
  forall₂_congr fun _ _ => isBlank_iff.symm

theorem IsWhite.append (hu : IsWhite u) (hv : IsWhite v) : IsWhite (u ++ v) :=
  List.forall_mem_append.2 ⟨hu, hv⟩

/-! ## What is left -/

/-- White space in front is cut off, however much there is. -/
theorem trimLeft_white_append (hu : IsWhite u) (s : List Char) :
    trimLeft (u ++ s) = trimLeft s :=
  List.dropWhile_append_of_pos (isWhite_iff.1 hu)

/-- White space at the end is cut off, however much there is. -/
theorem trimRight_append_white (hv : IsWhite v) (s : List Char) :
    trimRight (s ++ v) = trimRight s := by
  rw [trimRight, List.reverse_append, ← trimLeft, trimLeft_white_append]
  · rfl
  · exact fun c hc => hv c (List.mem_reverse.1 hc)

/-- What does not begin with white space is left as it is. -/
theorem trimLeft_of_head? (h : ∀ c, s.head? = some c → c ∉ whiteSpace) : trimLeft s = s := by
  rcases s with _ | ⟨c, s⟩
  · rfl
  · exact List.dropWhile_cons_of_neg fun hc => h c rfl (isBlank_iff.1 hc)

/-- What does not end with white space is left as it is. -/
theorem trimRight_of_getLast? (h : ∀ c, s.getLast? = some c → c ∉ whiteSpace) :
    trimRight s = s := by
  rw [trimRight, ← trimLeft, trimLeft_of_head?, List.reverse_reverse]
  rwa [List.head?_reverse]

/-- A bare text is all that is left when there is white space around it. -/
theorem trimChars_append (hu : IsWhite u) (hs : IsBare s) (hv : IsWhite v) :
    trimChars (u ++ s ++ v) = s := by
  rw [trimChars, List.append_assoc, trimLeft_white_append hu]
  -- Without an inside, everything is cut off in front already.
  rcases s with _ | ⟨c, s⟩
  · rw [List.nil_append, ← v.append_nil, trimLeft_white_append hv]
    rfl
  · have hhead : trimLeft (c :: s ++ v) = c :: s ++ v := trimLeft_of_head? hs.head
    rw [hhead, trimRight_append_white hv, trimRight_of_getLast? hs.getLast]

theorem not_mem_whiteSpace_of_trimLeft (h : (trimLeft s).head? = some c) : c ∉ whiteSpace := by
  have hnot := List.head?_dropWhile_not isBlank s
  rw [← trimLeft, h] at hnot
  rw [← isBlank_iff, hnot]
  exact Bool.false_ne_true

/-- What is left is bare. -/
theorem isBare_trimChars (s : List Char) : IsBare (trimChars s) where
  head c h := by
    -- What is left at the end began as what was left in front.
    obtain ⟨v, hv⟩ := List.rdropWhile_prefix isBlank (trimLeft s)
    rw [List.rdropWhile, ← trimRight, ← trimChars] at hv
    refine not_mem_whiteSpace_of_trimLeft (s := s) ?_
    rw [← hv, List.head?_append, h, Option.some_or]
  getLast c h := by
    rw [trimChars, trimRight, List.getLast?_reverse] at h
    exact not_mem_whiteSpace_of_trimLeft h

/-- What is left is all of a text but for white space at its ends. -/
theorem exists_white_append (s : List Char) :
    ∃ u v, IsWhite u ∧ IsWhite v ∧ s = u ++ trimChars s ++ v := by
  simpa only [isWhite_iff] using trimChars_eq s

/-- More white space at the ends makes no difference. -/
theorem trimChars_white_append (hu : IsWhite u) (s : List Char) (hv : IsWhite v) :
    trimChars (u ++ s ++ v) = trimChars s := by
  obtain ⟨u', v', hu', hv', hs⟩ := exists_white_append s
  have hsplit : u ++ s ++ v = (u ++ u') ++ trimChars s ++ (v' ++ v) := by
    conv_lhs => rw [hs]
    simp only [List.append_assoc]
  rw [hsplit, trimChars_append (hu.append hu') (isBare_trimChars s) (hv'.append hv)]

/-- A bare text is left as it is. -/
theorem IsBare.trimChars_eq (hs : IsBare s) : trimChars s = s := by
  simpa using
    trimChars_append (u := []) (v := []) (List.forall_mem_nil _) hs (List.forall_mem_nil _)

/-- Nothing is left of white space only. -/
theorem trimChars_eq_nil_iff : trimChars s = [] ↔ IsWhite s := by
  constructor
  · intro h
    obtain ⟨u, v, hu, hv, hs⟩ := exists_white_append s
    rw [hs, h, List.append_nil]
    exact hu.append hv
  · intro hs
    have h := trimChars_white_append hs [] (List.forall_mem_nil _)
    rwa [List.append_nil, List.append_nil] at h

/-! ## Texts -/

variable {t t' : String}

/-- Two texts with the same inside, each between white space of its own. -/
def SameInside (t t' : String) : Prop :=
  ∃ m u v u' v' : String, IsWhite u.toList ∧ IsWhite v.toList ∧ IsWhite u'.toList ∧
    IsWhite v'.toList ∧ t = u ++ m ++ v ∧ t' = u' ++ m ++ v'

theorem toList_trim (t : String) : (trim t).toList = trimChars t.toList := String.toList_ofList

/-- Nothing is left of a text if and only if it is white space. -/
theorem trim_eq_empty_iff : trim t = "" ↔ IsWhite t.toList := by
  rw [← String.toList_eq_nil_iff, toList_trim, trimChars_eq_nil_iff]

theorem trim_eq_of_isBare (h : IsBare t.toList) : trim t = t := by
  rw [← String.toList_inj, toList_trim, h.trimChars_eq]

/-- A text is what is left of it, between white space. -/
theorem exists_append_trim (t : String) :
    ∃ u v : String, IsWhite u.toList ∧ IsWhite v.toList ∧ t = u ++ trim t ++ v := by
  obtain ⟨u, v, hu, hv, ht⟩ := exists_white_append t.toList
  refine ⟨.ofList u, .ofList v, ?_, ?_, ?_⟩
  · rwa [String.toList_ofList]
  · rwa [String.toList_ofList]
  · rw [← String.toList_inj, String.toList_append, String.toList_append, String.toList_ofList,
      String.toList_ofList, toList_trim, ← ht]

/-- The same is left of texts with the same inside. -/
theorem SameInside.trim_eq (h : SameInside t t') : trim t' = trim t := by
  obtain ⟨m, u, v, u', v', hu, hv, hu', hv', rfl, rfl⟩ := h
  simp only [← String.toList_inj, toList_trim, String.toList_append]
  rw [trimChars_white_append hu _ hv, trimChars_white_append hu' _ hv']

end Text

namespace Settings

open Text

variable {t : String}

/-- The settings with another filter. -/
def withFilter (s : Settings) (t : String) : Settings := { s with log := some ⟨some t⟩ }

/-- The filter that is in force is what is left of the one that is set, or else the standard one. -/
theorem logFilter_withFilter (s : Settings) (t : String) :
    (s.withFilter t).logFilter = if trim t = "" then "warn" else trim t := by
  change ((some (trim t)).filter (· ≠ "")).getD "warn" = _
  split_ifs with h
  · rw [h]
    rfl
  · rw [Option.filter_some_pos (by simpa using h), Option.getD_some]

/-- The filter that is in force is not empty, and bare. -/
theorem isBare_logFilter (s : Settings) (t : String) :
    (s.withFilter t).logFilter ≠ "" ∧ IsBare (s.withFilter t).logFilter.toList := by
  rw [logFilter_withFilter]
  split_ifs with h
  · exact ⟨by decide, by simp [whiteSpace], by simp [whiteSpace]⟩
  · rw [toList_trim]
    exact ⟨h, isBare_trimChars _⟩

/-- Of a filter that is set, the white space at its ends is left out; a filter of nothing else is
    replaced by the standard one. What comes of it is not empty, neither begins nor ends with white
    space, and stays the same if it is set in turn; it does not depend on the white space at the
    ends. -/
theorem logFilter_trimmed (s : Settings) (t : String) :
    let r := (s.withFilter t).logFilter
    (r ≠ "" ∧ IsBare r.toList) ∧
    (¬IsWhite t.toList →
      ∃ u v : String, IsWhite u.toList ∧ IsWhite v.toList ∧ t = u ++ r ++ v) ∧
    (IsWhite t.toList → r = "warn") ∧
    (s.withFilter r).logFilter = r ∧
    ∀ t', SameInside t t' → (s.withFilter t').logFilter = r := by
  intro r
  have hr : r = if trim t = "" then "warn" else trim t := logFilter_withFilter s t
  obtain ⟨hne, hbare⟩ := isBare_logFilter s t
  refine ⟨⟨hne, hbare⟩, fun ht => ?_, fun ht => ?_, ?_, fun t' ht' => ?_⟩
  · rw [hr, if_neg (mt trim_eq_empty_iff.1 ht)]
    exact exists_append_trim t
  · rw [hr, if_pos (trim_eq_empty_iff.2 ht)]
  · rw [logFilter_withFilter, trim_eq_of_isBare hbare, if_neg hne]
  · rw [hr, ← ht'.trim_eq, logFilter_withFilter]

end Settings

end OpeningTerms
