import OpeningTerms.Text.Quoted

/-!
# Inert text

A terminal takes some controls for commands: the bell, the backspace, the form feed, the
escape and the delete, and all controls beyond ASCII. Text that comes from outside is
made *inert* before it is shown there, which writes these as escapes. Other controls,
the ends of lines among them, stay as they are.

* `inertChars_eq_self`: a text without any command is inert already.
-/

namespace OpeningTerms.Text

/-- A command in one byte. -/
def isByteCommand (c : Char) : Bool :=
  c == '\x07' || c == '\x08' || c == '\x0c' || c == '\x1b' || c == '\x7f'

/-- A control beyond ASCII. -/
def isFarControl (c : Char) : Bool := 0x80 ≤ c.toNat && c.toNat ≤ 0x9f

/-- A character that a terminal takes for a command. -/
def isCommand (c : Char) : Bool := isByteCommand c || isFarControl c

/-- A character as it is shown. -/
def inertChar (c : Char) : List Char :=
  if isByteCommand c then
    ['\\', 'x'] ++ List.replicate (2 - (hexDigits c.toNat).length) '0' ++ hexDigits c.toNat
  else if isFarControl c then ['\\', 'u', '\x7b'] ++ hexDigits c.toNat ++ ['\x7d']
  else [c]

/-- A text as it is shown. -/
def inertChars (s : List Char) : List Char := s.flatMap inertChar

/-- A text as it is shown. -/
def inert (s : String) : String := .ofList (inertChars s.toList)

/-- A text without any command is inert already. -/
theorem inertChars_eq_self {s : List Char} (h : ∀ c ∈ s, isCommand c = false) :
    inertChars s = s := by
  induction s with
  | nil => rfl
  | cons c s ih =>
    have hc := h c List.mem_cons_self
    rw [isCommand, Bool.or_eq_false_iff] at hc
    have hi : inertChar c = [c] := by simp [inertChar, hc.1, hc.2]
    rw [inertChars, List.flatMap_cons, hi, ← inertChars,
      ih fun d hd => h d (List.mem_cons_of_mem _ hd)]
    rfl

end OpeningTerms.Text
