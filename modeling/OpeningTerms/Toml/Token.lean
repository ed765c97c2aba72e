import OpeningTerms.Text.Digit

/-!
# Tokens of a TOML document

A document is first cut into tokens. Strings are read here, escapes and all, since
nothing inside them matters to the rest of the grammar; everything else that is
not punctuation is a *word*, a run of characters whose meaning as a key or as a
value is decided later.

* `lexeme_length`: a token takes at least one character, which is why the cutting
  comes to an end.
-/

namespace OpeningTerms.Toml

open OpeningTerms.Text

/-- A token. -/
inductive Token where
  /-- A run of spaces and tabs. -/
  | blank (cs : List Char)
  | newline
  /-- A comment, up to the end of its line. -/
  | comment
  | dot
  | equals
  | comma
  | openBracket
  | closeBracket
  | openBrace
  | closeBrace
  /-- A string, after its escapes; `isLong` for one between triple quotes. -/
  | text (isLong : Bool) (cs : List Char)
  /-- A run of other characters. -/
  | word (cs : List Char)
deriving DecidableEq

/-- Space and tab. -/
def isSpace (c : Char) : Bool := c == ' ' || c == '\t'

/-- A character that may stand in a comment or on one line of a string: any but the
    controls, of which the tab is allowed. -/
def isPlain (c : Char) : Bool := c == '\t' || (0x20 ≤ c.toNat && c.toNat ≠ 0x7f)

/-- A character that does not end a word. -/
def isWordChar (c : Char) : Bool :=
  !isSpace c && c != '\n' && c != '\r' && c != '#' && c != '.' && c != '=' && c != ',' &&
    c != '[' && c != ']' && c != '\x7b' && c != '\x7d'

/-! ## Strings -/

/-- How far the reading of an escape has come. -/
inductive Escape where
  /-- No escape is open. -/
  | closed
  /-- After a backslash. -/
  | opened
  /-- `left + 1` more hexadecimal digits are to come. -/
  | hex (left : Nat) (value : Nat)
  /-- After a backslash and spaces: only the end of the line can follow. -/
  | atLineEnd
  /-- After a backslash at the end of a line: blanks and line ends are skipped. -/
  | skipping

/-- What the letter of an escape stands for: a character, or a number of digits. -/
def escapeLetter : Char → Option (Char ⊕ Nat)
  | 'b' => some (.inl '\x08')
  | 't' => some (.inl '\t')
  | 'n' => some (.inl '\n')
  | 'f' => some (.inl '\x0c')
  | 'r' => some (.inl '\r')
  | 'e' => some (.inl '\x1b')
  | '"' => some (.inl '"')
  | '\\' => some (.inl '\\')
  | 'x' => some (.inr 2)
  | 'u' => some (.inr 4)
  | 'U' => some (.inr 8)
  | _ => none

/-- What a reader has found, with one more character in front. -/
def push (c : Char) (r : Option (List Char × List Char)) : Option (List Char × List Char) :=
  r.map fun (cs, rest) => (c :: cs, rest)

/-- The rest of a string after its opening quote: its characters, and what follows
    the closing quote. -/
def basicBody : Escape → List Char → Option (List Char × List Char)
  | _, [] => none
  | .opened, c :: r =>
    match escapeLetter c with
    | some (.inl d) => push d (basicBody .closed r)
    | some (.inr n) => basicBody (.hex (n - 1) 0) r
    | none => none
  | .hex left value, c :: r =>
    match hexValue? c, left with
    | none, _ => none
    | some d, 0 => (charOfCode? (16 * value + d)).bind fun e => push e (basicBody .closed r)
    | some d, left + 1 => basicBody (.hex left (16 * value + d)) r
  | _, c :: r =>
    if c = '"' then some ([], r)
    else if c = '\\' then basicBody .opened r
    else if isPlain c then push c (basicBody .closed r)
    else none

/-- The rest of a literal string after its opening quote. -/
def literalBody : List Char → Option (List Char × List Char)
  | [] => none
  | c :: r =>
    if c = '\'' then some ([], r) else if isPlain c then push c (literalBody r) else none

/-- The end of a long string, whose closing quotes have begun `r`: up to two more
    quotes of the same kind belong to its text. -/
def longEnd (quote : Char) (r : List Char) : List Char × List Char :=
  let extra := (r.take 2).takeWhile (· == quote)
  (extra, r.drop extra.length)

/-- Whether `c` goes on a line end that is written before `r`: a line feed alone, or
    a carriage return only in front of one. -/
def isLineEnd (c : Char) (r : List Char) : Bool :=
  c == '\n' || (c == '\r' && r.head? == some '\n')

/-- The rest of a long string after its opening quotes. -/
def longBasicBody : Escape → List Char → Option (List Char × List Char)
  | _, [] => none
  | .opened, c :: r =>
    if isSpace c then longBasicBody .atLineEnd r
    else if isLineEnd c r then longBasicBody .skipping r
    else match escapeLetter c with
    | some (.inl d) => push d (longBasicBody .closed r)
    | some (.inr n) => longBasicBody (.hex (n - 1) 0) r
    | none => none
  | .hex left value, c :: r =>
    match hexValue? c, left with
    | none, _ => none
    | some d, 0 => (charOfCode? (16 * value + d)).bind fun e => push e (longBasicBody .closed r)
    | some d, left + 1 => longBasicBody (.hex left (16 * value + d)) r
  | .atLineEnd, c :: r =>
    if isSpace c then longBasicBody .atLineEnd r
    else if isLineEnd c r then longBasicBody .skipping r
    else none
  | state, c :: r =>
    if state matches .skipping && (isSpace c || isLineEnd c r) then longBasicBody .skipping r
    else if c = '"' then
      if r.take 2 = ['"', '"'] then some (longEnd '"' (r.drop 2))
      else push c (longBasicBody .closed r)
    else if c = '\\' then longBasicBody .opened r
    else if isPlain c || isLineEnd c r then push c (longBasicBody .closed r)
    else none

/-- The rest of a long literal string after its opening quotes. -/
def longLiteralBody : List Char → Option (List Char × List Char)
  | [] => none
  | c :: r =>
    if c = '\'' && r.take 2 = ['\'', '\''] then some (longEnd '\'' (r.drop 2))
    else if isPlain c || isLineEnd c r then push c (longLiteralBody r)
    else none

/-- A line end right after the opening quotes of a long string is no part of it. -/
def dropLineEnd : List Char → List Char
  | '\n' :: r => r
  | '\r' :: '\n' :: r => r
  | r => r

/-- The string that a quote opens in front of `r`. -/
def textLexeme (quote : Char) (r : List Char) : Option (Token × List Char) :=
  let isLong := decide (r.take 2 = [quote, quote])
  let body :=
    match isLong, quote == '"' with
    | false, true => basicBody .closed r
    | false, false => literalBody r
    | true, true => longBasicBody .closed (dropLineEnd (r.drop 2))
    | true, false => longLiteralBody (dropLineEnd (r.drop 2))
  body.map fun (cs, rest) => (.text isLong cs, rest)

/-! ## The cutting -/

/-- The first token of a text, with what is left. -/
def lexeme : List Char → Option (Token × List Char)
  | [] => none
  | c :: r =>
    if isSpace c then some (.blank (c :: r.takeWhile isSpace), r.dropWhile isSpace)
    else if isLineEnd c r then some (.newline, if c = '\n' then r else r.drop 1)
    else match c with
    | '\r' => none
    | '#' => some (.comment, r.dropWhile isPlain)
    | '.' => some (.dot, r)
    | '=' => some (.equals, r)
    | ',' => some (.comma, r)
    | '[' => some (.openBracket, r)
    | ']' => some (.closeBracket, r)
    | '\x7b' => some (.openBrace, r)
    | '\x7d' => some (.closeBrace, r)
    | '"' => textLexeme '"' r
    | '\'' => textLexeme '\'' r
    | _ => some (.word (c :: r.takeWhile isWordChar), r.dropWhile isWordChar)

/-! A reader of a string leaves no more than it was given. -/

theorem push_eq_some_iff {c : Char} {x : Option (List Char × List Char)} {cs rest : List Char} :
    push c x = some (cs, rest) ↔ ∃ cs', x = some (cs', rest) ∧ cs = c :: cs' := by
  rw [push, Option.map_eq_some_iff]
  constructor
  · rintro ⟨⟨cs', r⟩, hx, he⟩
    cases he
    exact ⟨cs', hx, rfl⟩
  · rintro ⟨cs', hx, rfl⟩
    exact ⟨(cs', rest), hx, rfl⟩

theorem longEnd_length (q : Char) (r : List Char) : (longEnd q r).2.length ≤ r.length := by
  simp [longEnd]

theorem dropLineEnd_length (r : List Char) : (dropLineEnd r).length ≤ r.length := by
  unfold dropLineEnd
  split
  · simp
  · simp only [List.length_cons]
    omega
  · exact Nat.le_refl _

theorem basicBody_length {st : Escape} {s cs rest : List Char}
    (h : basicBody st s = some (cs, rest)) : rest.length ≤ s.length := by
  fun_induction basicBody st s generalizing cs <;>
    grind [push_eq_some_iff, Option.bind_eq_some_iff]

theorem literalBody_length {s cs rest : List Char} (h : literalBody s = some (cs, rest)) :
    rest.length ≤ s.length := by
  fun_induction literalBody s generalizing cs <;>
    grind [push_eq_some_iff, Option.bind_eq_some_iff]

theorem longBasicBody_length {st : Escape} {s cs rest : List Char}
    (h : longBasicBody st s = some (cs, rest)) : rest.length ≤ s.length := by
  fun_induction longBasicBody st s generalizing cs <;>
    grind [push_eq_some_iff, Option.bind_eq_some_iff, longEnd_length]

theorem longLiteralBody_length {s cs rest : List Char}
    (h : longLiteralBody s = some (cs, rest)) : rest.length ≤ s.length := by
  fun_induction longLiteralBody s generalizing cs <;>
    grind [push_eq_some_iff, Option.bind_eq_some_iff, longEnd_length]

theorem textLexeme_length {q : Char} {r rest : List Char} {t : Token}
    (h : textLexeme q r = some (t, rest)) : rest.length ≤ r.length := by
  obtain ⟨⟨cs, rest'⟩, hb, he⟩ := Option.map_eq_some_iff.1 h
  cases he
  have hl := dropLineEnd_length (r.drop 2)
  rw [List.length_drop] at hl
  split at hb
  · exact basicBody_length hb
  · exact literalBody_length hb
  · have := longBasicBody_length hb
    omega
  · have := longLiteralBody_length hb
    omega

theorem dropWhile_length (p : Char → Bool) (r : List Char) :
    (r.dropWhile p).length ≤ r.length :=
  (List.dropWhile_suffix p).length_le

/-- A token takes at least one character. -/
theorem lexeme_length {s rest : List Char} {t : Token} (h : lexeme s = some (t, rest)) :
    rest.length < s.length := by
  unfold lexeme at h
  split at h
  · cases h
  · rename_i c r
    rw [List.length_cons, Nat.lt_succ_iff]
    split at h
    · cases h
      exact dropWhile_length _ _
    · split at h
      · cases h
        split
        · exact Nat.le_refl _
        · rw [List.length_drop]
          omega
      · split at h
        · cases h
        · cases h
          exact dropWhile_length _ _
        · cases h
          exact Nat.le_refl _
        · cases h
          exact Nat.le_refl _
        · cases h
          exact Nat.le_refl _
        · cases h
          exact Nat.le_refl _
        · cases h
          exact Nat.le_refl _
        · cases h
          exact Nat.le_refl _
        · cases h
          exact Nat.le_refl _
        · exact textLexeme_length h
        · exact textLexeme_length h
        · cases h
          exact dropWhile_length _ _

/-- The tokens of a text, if it can be cut into tokens to its end. -/
def tokens? (s : List Char) : Option (List Token) :=
  if s = [] then some []
  else
    match _h : lexeme s with
    | none => none
    | some (t, rest) => (tokens? rest).map (t :: ·)
termination_by s.length
decreasing_by exact lexeme_length _h

end OpeningTerms.Toml
