import OpeningTerms.Text.Blank
import OpeningTerms.Text.Digit

/-!
# Atoms of patterns

A *pattern* is a regular expression. Patterns are only examined here, never matched, so
all that is kept of one is what bears on its validity. Its *atoms* are characters, kinds
of characters, and places; how each of them is written and where it is allowed depends
on the *mode*, which a pattern can change on its way.

There are no tables of the properties of characters. Hence, while characters are matched,
neither the kinds of characters can be named nor the case of letters ignored; while bytes
are matched, both can be done. But a match must not cut a character into pieces, and so
no atom for bytes may match one beyond ASCII.
-/

namespace OpeningTerms.Pattern

open OpeningTerms.Text

/-- How a pattern is to be understood from some place on. -/
structure Mode where
  /-- The case of letters does not matter. -/
  ignoreCase : Bool := false
  /-- Characters are matched, and not bytes. -/
  unicode : Bool := true
  /-- White space and comments between the parts of the pattern do not count. -/
  verbose : Bool := false

/-! ## White space and comments -/

/-- The text without the white space and the comments in front, each of them up to the
    end of its line. The flag says that a comment is open. -/
def skipSpace : Bool → List Char → List Char
  | _, [] => []
  | true, c :: s => skipSpace (c != '\n') s
  | false, c :: s =>
    if isBlank c then skipSpace false s else if c = '#' then skipSpace true s else c :: s

/-- The text from the first character on that counts. -/
def Mode.skip (m : Mode) (s : List Char) : List Char := if m.verbose then skipSpace false s else s

/-- The character that counts next, for a hyphen in front of it. Of a comment only the
    sign that begins it is passed over; where nothing counts, the very next one does. -/
def Mode.peek (m : Mode) (s : List Char) : Option Char :=
  if m.verbose then
    let t := s.dropWhile isBlank
    let t := if t.head? = some '#' then (t.drop 1).dropWhile isBlank else t
    t.head? <|> s.head?
  else s.head?

/-! ## Escapes -/

/-- The smallest part of a pattern. -/
inductive Atom where
  /-- A character; `isByte` if it is written by a code of two digits. -/
  | character (c : Char) (isByte : Bool)
  /-- A digit, a space or a character of words, or any but these. -/
  | kind (negated : Bool)
  /-- Any character within a line. -/
  | any
  /-- An end of the text or of a line. -/
  | edge
  /-- A place where a word begins or ends, or where none does. -/
  | wordEdge

/-- The number that a code of so many hexadecimal digits adds to, with what follows it. -/
def code (m : Mode) : Nat → Nat → List Char → Option (Nat × List Char)
  | 0, value, s => some (value, s)
  | n + 1, value, s =>
    match m.skip s with
    | [] => none
    | c :: s => (hexValue? c).bind fun d => code m n (16 * value + d) s

/-- A character that is written by a code of so many digits. -/
def coded (m : Mode) (digits : Nat) (s : List Char) : Option (Atom × List Char) := do
  let (value, s) ← code m digits 0 s
  let c ← charOfCode? value
  some (.character c (digits = 2), s)

/-- The atom behind a backslash, with what follows it. Punctuation stands for itself;
    letters and digits have a meaning of their own or none. -/
def escape (m : Mode) : List Char → Option (Atom × List Char)
  | [] => none
  | c :: s =>
    match c with
    | 'x' => coded m 2 s
    | 'u' => coded m 4 s
    | 'U' => coded m 8 s
    | 'd' | 's' | 'w' => some (.kind false, s)
    | 'D' | 'S' | 'W' => some (.kind true, s)
    | 'a' => some (.character '\x07' false, s)
    | 't' => some (.character '\t' false, s)
    | 'n' => some (.character '\n' false, s)
    | 'v' => some (.character '\x0b' false, s)
    | 'f' => some (.character '\x0c' false, s)
    | 'r' => some (.character '\r' false, s)
    | 'A' | 'z' => some (.edge, s)
    | 'b' | 'B' | '<' | '>' => some (.wordEdge, s)
    | _ => if c.toNat < 0x80 && !c.isAlphanum then some (.character c false, s) else none

/-! ## Where atoms are allowed -/

/-- Whether an atom may stand outside of brackets. -/
def Atom.isAllowed (m : Mode) : Atom → Bool
  | .character c isByte => if m.unicode then !m.ignoreCase else !isByte || c.toNat < 0x80
  | .kind negated => !m.unicode && !negated
  | .any => m.unicode
  | .edge | .wordEdge => true

/-- Whether an atom may stand between brackets. -/
def Atom.isMember (m : Mode) : Atom → Bool
  | .character c _ => if m.unicode then !m.ignoreCase else c.toNat < 0x80
  | .kind negated => !m.unicode && !negated
  | .any | .edge | .wordEdge => false

end OpeningTerms.Pattern
