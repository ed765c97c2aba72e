import OpeningTerms.Text.Ranges

/-!
# White space

The characters with the property `White_Space`, and the text without those at its
two ends. Zero-width characters and the byte order mark are not white space.

* `trimChars_eq`: what is cut off at either end is white space, and nothing else is.
-/

namespace OpeningTerms.Text

/-- The runs of white space, in ascending order. -/
def blankRuns : List (Nat × Nat) := [
  (0x9, 0xd), (0x20, 0x20), (0x85, 0x85), (0xa0, 0xa0), (0x1680, 0x1680), (0x2000, 0x200a),
  (0x2028, 0x2029), (0x202f, 0x202f), (0x205f, 0x205f), (0x3000, 0x3000)]

/-- A character that separates without being seen. -/
def isBlank (c : Char) : Bool := inRanges blankRuns c

/-- The text without the white space in front. -/
def trimLeft (s : List Char) : List Char := s.dropWhile isBlank

/-- The text without the white space at the end. -/
def trimRight (s : List Char) : List Char := (s.reverse.dropWhile isBlank).reverse

/-- The text without the white space at its two ends. -/
def trimChars (s : List Char) : List Char := trimRight (trimLeft s)

/-- The text without the white space at its two ends. -/
def trim (s : String) : String := .ofList (trimChars s.toList)

theorem trimLeft_append (s : List Char) :
    ∃ u, (∀ c ∈ u, isBlank c) ∧ s = u ++ trimLeft s :=
  ⟨s.takeWhile isBlank, fun _ hc => List.all_eq_true.1 List.all_takeWhile _ hc,
    List.takeWhile_append_dropWhile.symm⟩

theorem append_trimRight (s : List Char) :
    ∃ v, (∀ c ∈ v, isBlank c) ∧ s = trimRight s ++ v := by
  obtain ⟨u, hu, h⟩ := trimLeft_append s.reverse
  refine ⟨u.reverse, by simpa using hu, ?_⟩
  rw [trimRight, ← List.reverse_append, ← trimLeft, ← h, List.reverse_reverse]

/-- The white space at the two ends is all that trimming takes away. -/
theorem trimChars_eq (s : List Char) :
    ∃ u v, (∀ c ∈ u, isBlank c) ∧ (∀ c ∈ v, isBlank c) ∧ s = u ++ trimChars s ++ v := by
  obtain ⟨u, hu, h₁⟩ := trimLeft_append s
  obtain ⟨v, hv, h₂⟩ := append_trimRight (trimLeft s)
  exact ⟨u, v, hu, hv, by rw [trimChars, List.append_assoc, ← h₂, ← h₁]⟩

end OpeningTerms.Text
