import OpeningTerms.Text.Graphic
import OpeningTerms.Text.GraphemeExtend

/-!
# Quoted text

How a text is shown so that every character of it can be told: between double
quotes, with the quote, the backslash, the common controls and whatever leaves
no ink of its own written as escapes. An escape other than the short ones gives
the code point in hexadecimal between braces.
-/

namespace OpeningTerms.Text

/-- The digits of a number in lower-case hexadecimal. -/
def hexDigits (n : Nat) : List Char := Nat.toDigits 16 n

/-- The short escape of a character, if it has one. -/
def shortEscape : Char → Option Char
  | '\x00' => some '0'
  | '\t' => some 't'
  | '\n' => some 'n'
  | '\r' => some 'r'
  | '"' => some '"'
  | '\\' => some '\\'
  | _ => none

/-- A character that stands for itself between quotes. -/
def isShown (c : Char) : Bool :=
  c == ' ' || (isGraphic c && !isGraphemeExtend c)

/-- A character as it is written between quotes. -/
def quoteChar (c : Char) : List Char :=
  match shortEscape c with
  | some e => ['\\', e]
  | none => if isShown c then [c] else ['\\', 'u', '\x7b'] ++ hexDigits c.toNat ++ ['\x7d']

/-- A text between quotes. -/
def quote (s : String) : String :=
  .ofList ('"' :: s.toList.flatMap quoteChar ++ ['"'])

end OpeningTerms.Text
