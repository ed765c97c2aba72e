/-!
# Digits

The value of a digit in a base up to sixteen, and of a list of digits. Only the
ASCII digits and letters are digits.
-/

namespace OpeningTerms.Text

/-- The value of a hexadecimal digit, in either case. -/
def hexValue? (c : Char) : Option Nat :=
  if '0' ≤ c ∧ c ≤ '9' then some (c.toNat - 0x30)
  else if 'a' ≤ c ∧ c ≤ 'f' then some (c.toNat - 0x61 + 10)
  else if 'A' ≤ c ∧ c ≤ 'F' then some (c.toNat - 0x41 + 10)
  else none

/-- Whether `c` is a digit in the given base. -/
def isDigitOf (base : Nat) (c : Char) : Bool := (hexValue? c).any (· < base)

/-- A decimal digit. -/
def isDecimal (c : Char) : Bool := '0' ≤ c && c ≤ '9'

/-- The number that digits stand for in the given base. -/
def ofDigits (base : Nat) (ds : List Char) : Nat :=
  ds.foldl (fun n c => base * n + (hexValue? c).getD 0) 0

/-- The character with a code point, if that is one and not half of a pair. -/
def charOfCode? (n : Nat) : Option Char :=
  if n.isValidChar then some (Char.ofNat n) else none

theorem hexValue?_of_isDecimal {c : Char} (h : isDecimal c) :
    hexValue? c = some (c.toNat - 0x30) := by
  rw [isDecimal, Bool.and_eq_true, decide_eq_true_eq, decide_eq_true_eq] at h
  rw [hexValue?, if_pos h]

/-- In base ten, digits have the value that the standard library gives them. -/
theorem ofDigits_ten {ds : List Char} (h : ∀ c ∈ ds, isDecimal c) :
    ofDigits 10 ds = Nat.ofDigitChars 10 ds 0 := by
  rw [ofDigits, Nat.ofDigitChars_eq_foldl]
  suffices ∀ n, ds.foldl (fun n c => 10 * n + (hexValue? c).getD 0) n =
      ds.foldl (fun n c => 10 * n + (c.toNat - '0'.toNat)) n from this 0
  induction ds with
  | nil => intro n; rfl
  | cons d ds ih =>
    intro n
    rw [List.foldl_cons, List.foldl_cons, hexValue?_of_isDecimal (h d List.mem_cons_self)]
    exact ih (fun c hc => h c (List.mem_cons_of_mem _ hc)) _

end OpeningTerms.Text
