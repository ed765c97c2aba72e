/-!
# Runs of code points

A property of characters is given by a table of runs of code points.
-/

namespace OpeningTerms.Text

/-- Whether the code point of `c` is in one of the runs, each given by its first and
    its last code point. -/
def inRanges (runs : List (Nat × Nat)) (c : Char) : Bool :=
  runs.any fun r => r.1 ≤ c.toNat && c.toNat ≤ r.2

theorem inRanges_eq_true_iff {runs : List (Nat × Nat)} {c : Char} :
    inRanges runs c = true ↔ ∃ r ∈ runs, r.1 ≤ c.toNat ∧ c.toNat ≤ r.2 := by
  simp [inRanges]

end OpeningTerms.Text
