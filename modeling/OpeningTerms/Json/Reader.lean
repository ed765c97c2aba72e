import OpeningTerms.Json.Number

/-!
# Reading JSON

The tree of a JSON text, read from the front. Every reader answers with what it has
read and with what is left, or with nothing left where the text is at fault; the
tree then ends in a broken part.

The readers of values recurse on a number that bounds the characters to be read;
a value takes at least one.
-/

namespace OpeningTerms.Json

open OpeningTerms.Text

/-- White space between the parts of a text. -/
def isSpace (c : Char) : Bool := c == ' ' || c == '\n' || c == '\t' || c == '\r'

/-- Drops white space in front. -/
def skipSpace (s : List Char) : List Char := s.dropWhile isSpace

/-! ## Strings -/

/-- A part of a string: a character, or a 16-bit unit given by its number. -/
inductive Part where
  | char (c : Char)
  | unit (n : Nat)

/-- How far the reading of an escape has come. -/
inductive Escape where
  | closed
  /-- After a backslash. -/
  | opened
  /-- `left + 1` more hexadecimal digits are to come. -/
  | hex (left : Nat) (value : Nat)

/-- What the letter of a short escape stands for. -/
def escapeLetter : Char → Option Char
  | '"' => some '"'
  | '\\' => some '\\'
  | '/' => some '/'
  | 'b' => some '\x08'
  | 'f' => some '\x0c'
  | 'n' => some '\n'
  | 'r' => some '\r'
  | 't' => some '\t'
  | _ => none

/-- The rest of a string after its opening quote: its parts, and what follows the
    closing quote. -/
def stringBody : Escape → List Char → Option (List Part × List Char)
  | _, [] => none
  | .closed, c :: r =>
    if c = '"' then some ([], r)
    else if c = '\\' then stringBody .opened r
    else if c.toNat < 0x20 then none
    else (stringBody .closed r).map fun (ps, rest) => (.char c :: ps, rest)
  | .opened, c :: r =>
    if c = 'u' then stringBody (.hex 3 0) r
    else (escapeLetter c).bind fun d =>
      (stringBody .closed r).map fun (ps, rest) => (.char d :: ps, rest)
  | .hex left value, c :: r =>
    match hexValue? c, left with
    | none, _ => none
    | some d, 0 => (stringBody .closed r).map fun (ps, rest) => (.unit (16 * value + d) :: ps, rest)
    | some d, left + 1 => stringBody (.hex left (16 * value + d)) r

/-- The character of a surrogate pair. -/
def pairChar (high low : Nat) : Char :=
  .ofNat (0x10000 + (high - 0xd800) * 0x400 + (low - 0xdc00))

/-- The text of parts in a row, if every surrogate is paired. The number in front is a
    high surrogate whose partner has to come next. -/
def joinParts : Option Nat → List Part → Option (List Char)
  | none, [] => some []
  | none, .char c :: ps => (joinParts none ps).map (c :: ·)
  | none, .unit n :: ps =>
    if 0xd800 ≤ n ∧ n < 0xdc00 then joinParts (some n) ps
    else (charOfCode? n).bind fun c => (joinParts none ps).map (c :: ·)
  | some high, .unit n :: ps =>
    if 0xdc00 ≤ n ∧ n < 0xe000 then (joinParts none ps).map (pairChar high n :: ·) else none
  | some _, _ => none

/-- The text of a string. -/
def textOf (ps : List Part) : Option String := (joinParts none ps).map .ofList

/-! ## Values -/

/-- What is left after `w` in front of a text. -/
def afterWord (w : List Char) (s : List Char) : Option (List Char) :=
  if w.isPrefixOf s then some (s.drop w.length) else none

/-- One of the words that are values, or a number. -/
def plainValue (s : List Char) : Value × Option (List Char) :=
  match afterWord ['n', 'u', 'l', 'l'] s with
  | some r => (.null, some r)
  | none =>
    match afterWord ['t', 'r', 'u', 'e'] s with
    | some r => (.boolean true, some r)
    | none =>
      match afterWord ['f', 'a', 'l', 's', 'e'] s with
      | some r => (.boolean false, some r)
      | none =>
        match number? s with
        | some (n, r) => (.number n, some r)
        | none => (.broken, none)

mutual

/-- The value in front of a text. -/
def value : Nat → List Char → Value × Option (List Char)
  | 0, _ => (.broken, none)
  | n + 1, s =>
    match skipSpace s with
    | '[' :: r => let (vs, rest) := items n true r; (.array vs, rest)
    | '\x7b' :: r => let (ms, rest) := members n true r; (.object ms, rest)
    | '"' :: r =>
      match stringBody .closed r with
      | some (ps, r) => (.text (textOf ps), some r)
      | none => (.broken, none)
    | r => plainValue r

/-- The items of an array after its bracket, or after a comma. -/
def items : Nat → (isFirst : Bool) → List Char → List Value × Option (List Char)
  | 0, _, _ => ([.broken], none)
  | n + 1, isFirst, s =>
    match isFirst, skipSpace s with
    | true, ']' :: r => ([], some r)
    | _, s =>
      match value n s with
      | (v, none) => ([v], none)
      | (v, some r) =>
        match skipSpace r with
        | ']' :: r => ([v], some r)
        | ',' :: r => let (vs, rest) := items n false r; (v :: vs, rest)
        | _ => ([v, .broken], none)

/-- The members of an object after its brace, or after a comma. -/
def members : Nat → (isFirst : Bool) → List Char →
    List (Option String × Value) × Option (List Char)
  | 0, _, _ => ([(none, .broken)], none)
  | n + 1, isFirst, s =>
    match isFirst, skipSpace s with
    | true, '\x7d' :: r => ([], some r)
    | _, '"' :: r =>
      match stringBody .closed r with
      | none => ([(none, .broken)], none)
      | some (ps, r) =>
        match skipSpace r with
        | ':' :: r =>
          match value n r with
          | (v, none) => ([(textOf ps, v)], none)
          | (v, some r) =>
            match skipSpace r with
            | '\x7d' :: r => ([(textOf ps, v)], some r)
            | ',' :: r => let (ms, rest) := members n false r; ((textOf ps, v) :: ms, rest)
            | _ => ([(textOf ps, v), (none, .broken)], none)
        | _ => ([(textOf ps, .broken)], none)
    | _, _ => ([(none, .broken)], none)

end

/-- The tree of a text, and whether nothing but white space follows it. -/
def Value.read (text : String) : Value × Bool :=
  let s := text.toList
  match value (s.length + 1) s with
  | (v, some r) => (v, skipSpace r = [])
  | (v, none) => (v, false)

end OpeningTerms.Json
