import OpeningTerms.Proofs.DistinctKeys
import OpeningTerms.Proofs.Numerals

/-!
# Sheets

A *sheet* is a document of the plainest kind: lines with a key and a value each, first some without
a header and then those of the sections, where a value is a number or a text without escapes. A
sheet is written line by line (`Sheet.text`), and what it says is the table of its lines and of its
sections (`Sheet.document`).

Writing and reading are matched in three steps. A line is cut into the tokens it was put together
from, whatever follows it (`tokens?_lines`); these tokens are read as the statement of the line
(`statements_lines`); and as no key comes twice, the statements add up to the table
(`assemble_sheet`).

* `read?_sheet`: a sheet is read as it was written.
-/

namespace OpeningTerms.Toml

open OpeningTerms.Text

/-! ## What is written -/

/-- A value that is written on one line. -/
inductive PlainValue where
  | amount (n : UInt64)
  | text (s : String)

namespace PlainValue

/-- A number is written in base ten, a text between quotes. -/
def written : PlainValue → String
  | .amount n => toString n
  | .text s => "\"" ++ s ++ "\""

def document : PlainValue → Document
  | .amount n => .integer n.toNat
  | .text s => .text s

def token : PlainValue → Token
  | .amount n => .word (Nat.toDigits 10 n.toNat)
  | .text s => .text false s.toList

/-- Between quotes, a value means what it says: nothing in it ends a text or begins an escape. -/
def IsProper : PlainValue → Prop
  | .amount _ => True
  | .text s => ∀ c ∈ s.toList, isPlain c ∧ c ≠ '"' ∧ c ≠ '\\'

end PlainValue

/-- Keys with their values, a line each. -/
abbrev Lines := List (String × PlainValue)

namespace Lines

/-- Each key with an equals sign and its value, one below the other. -/
def text : Lines → String
  | [] => ""
  | (k, v) :: es => k ++ " = " ++ v.written ++ "\n" ++ text es

def entries (es : Lines) : List (String × Document) := es.map fun e => (e.1, e.2.document)

def tokens (es : Lines) : List Token :=
  es.flatMap fun e =>
    [.word e.1.toList, .blank [' '], .equals, .blank [' '], e.2.token, .newline]

def statements (es : Lines) : List Statement := es.map fun e => .entry [e.1] e.2.document

end Lines

/-- A key that can be written without quotes. -/
def IsBareKey (k : String) : Prop := k ≠ "" ∧ k.toList.all isKeyChar

theorem IsBareKey.toList_ne_nil {k : String} (hk : IsBareKey k) : k.toList ≠ [] := by
  simpa using hk.1

theorem IsBareKey.isKeyChar {k : String} (hk : IsBareKey k) : ∀ c ∈ k.toList, isKeyChar c :=
  List.all_eq_true.1 hk.2

/-- Lines with keys of their own, which can be written as they are. -/
structure Lines.IsProper (es : Lines) : Prop where
  nodup : (es.map Prod.fst).Nodup
  bare : ∀ e ∈ es, IsBareKey e.1
  value : ∀ e ∈ es, e.2.IsProper

/-- Sections with their names. -/
abbrev Sections := List (String × Lines)

namespace Sections

/-- Each name between brackets, with the lines of the section below it. -/
def text : Sections → String
  | [] => ""
  | (k, es) :: ss => "[" ++ k ++ "]\n" ++ es.text ++ text ss

def entries (ss : Sections) : List (String × Document) := ss.map fun s => (s.1, .table s.2.entries)

def tokens (ss : Sections) : List Token :=
  ss.flatMap fun s => [.openBracket, .word s.1.toList, .closeBracket, .newline] ++ s.2.tokens

def statements (ss : Sections) : List Statement :=
  ss.flatMap fun s => .header [s.1] :: s.2.statements

end Sections

/-- Lines without a header, and sections. -/
structure Sheet where
  lines : Lines := []
  sections : Sections := []

namespace Sheet

variable (s : Sheet)

def text : String := s.lines.text ++ s.sections.text

def document : Document := .table (s.lines.entries ++ s.sections.entries)

def tokens : List Token := s.lines.tokens ++ s.sections.tokens

def statements : List Statement := s.lines.statements ++ s.sections.statements

/-- No key and no section comes twice, and everything can be written as it is. -/
structure IsProper : Prop where
  nodup : (s.lines.map Prod.fst ++ s.sections.map Prod.fst).Nodup
  lines : s.lines.IsProper
  bare : ∀ t ∈ s.sections, IsBareKey t.1
  sections : ∀ t ∈ s.sections, t.2.IsProper

end Sheet

/-! ## Tokens -/

/-- The first token is cut off, and the rest of the characters is cut in the same way. -/
theorem tokens?_cons {s rest : List Char} {t : Token} (h : lexeme s = some (t, rest)) :
    tokens? s = (tokens? rest).map (t :: ·) := by
  rw [tokens?, if_neg (by rintro rfl; cases h)]
  -- The two other answers of the reader would contradict `h`.
  split
  · rename_i h'
    rw [h] at h'
    cases h'
  · rename_i t' rest' h'
    rw [h] at h'
    cases h'
    rfl

theorem isKeyChar_ne {c d : Char} (h : isKeyChar c) (hd : isKeyChar d = false) : c ≠ d := by
  rintro rfl
  rw [h] at hd
  cases hd

/-- A character of a key ends neither a word nor is it anything but part of one. -/
theorem isWordChar_of_isKeyChar {c : Char} (h : isKeyChar c) : isWordChar c := by
  -- None of the characters that end a word may stand in a key.
  have hne {d : Char} (hd : isKeyChar d = false) : c ≠ d := isKeyChar_ne h hd
  simp [isWordChar, isSpace, hne (d := ' ') rfl, hne (d := '\t') rfl, hne (d := '\n') rfl,
    hne (d := '\r') rfl, hne (d := '#') rfl, hne (d := '.') rfl, hne (d := '=') rfl,
    hne (d := ',') rfl, hne (d := '[') rfl, hne (d := ']') rfl, hne (d := '\x7b') rfl,
    hne (d := '\x7d') rfl]

theorem isSpace_of_isKeyChar {c : Char} (h : isKeyChar c) : isSpace c = false := by
  simp [isSpace, isKeyChar_ne h (d := ' ') rfl, isKeyChar_ne h (d := '\t') rfl]

/-- A word ends where a character follows that is no part of one. -/
theorem lexeme_word {cs rest : List Char} {d : Char} (hne : cs ≠ []) (hcs : ∀ c ∈ cs, isKeyChar c)
    (hd : isWordChar d = false) : lexeme (cs ++ d :: rest) = some (.word cs, d :: rest) := by
  have hword (c : Char) (hc : c ∈ cs) : isWordChar c := isWordChar_of_isKeyChar (hcs c hc)
  obtain ⟨c, cs, rfl⟩ := List.exists_cons_of_ne_nil hne
  rw [List.forall_mem_cons] at hcs hword
  have hne {d : Char} (hd : isKeyChar d = false) : c ≠ d := isKeyChar_ne hcs.1 hd
  have hspace := isSpace_of_isKeyChar hcs.1
  have hline : isLineEnd c (cs ++ d :: rest) = false := by
    simp [isLineEnd, hne (d := '\n') rfl, hne (d := '\r') rfl]
  rw [List.cons_append, lexeme]
  · simp [hspace, hline, hd, List.takeWhile_append_of_pos hword.2,
      List.dropWhile_append_of_pos hword.2]
  -- The character is none of those that begin another token.
  all_goals exact hne rfl

/-- A single space is a blank of its own where no other space follows. -/
theorem lexeme_blank {s : List Char} (hs : ∀ c ∈ s.head?, isSpace c = false) :
    lexeme (' ' :: s) = some (.blank [' '], s) := by
  change some (Token.blank (' ' :: s.takeWhile isSpace), s.dropWhile isSpace) = _
  rcases s with _ | ⟨c, s⟩
  · rfl
  · rw [List.takeWhile_cons, List.dropWhile_cons, hs c rfl]
    rfl

theorem lexeme_newline (s : List Char) : lexeme ('\n' :: s) = some (.newline, s) := rfl

/-- Plain characters are passed over up to the quote that closes the text. -/
theorem basicBody_append {cs rest : List Char}
    (hcs : ∀ c ∈ cs, isPlain c ∧ c ≠ '"' ∧ c ≠ '\\') :
    basicBody .closed (cs ++ '"' :: rest) = some (cs, rest) := by
  induction cs with
  | nil => rfl
  | cons c cs ih =>
    rw [List.forall_mem_cons] at hcs
    obtain ⟨⟨hplain, hquote, hescape⟩, hcs⟩ := hcs
    rw [List.cons_append, basicBody, if_neg hquote, if_neg hescape, if_pos hplain, ih hcs]
    · rfl
    -- No escape is open.
    · rintro ⟨⟩
    · rintro _ _ ⟨⟩

/-- A text ends at its second quote, unless a third one follows an empty text. -/
theorem lexeme_text {cs rest : List Char} (hcs : ∀ c ∈ cs, isPlain c ∧ c ≠ '"' ∧ c ≠ '\\')
    (hrest : rest.head? ≠ some '"') :
    lexeme ('"' :: (cs ++ '"' :: rest)) = some (.text false cs, rest) := by
  -- Three quotes in a row would begin a text over several lines.
  have hshort : (cs ++ '"' :: rest).take 2 ≠ ['"', '"'] := by
    rcases cs with _ | ⟨c, cs⟩
    · rcases rest with _ | ⟨d, rest⟩
      · decide
      · simpa using hrest
    · rw [List.forall_mem_cons] at hcs
      simp [hcs.1.2.1]
  change textLexeme '"' (cs ++ '"' :: rest) = _
  rw [textLexeme, decide_eq_false hshort]
  simp only [beq_self_eq_true, basicBody_append hcs, Option.map_some]

/-- A number is written as its digits. -/
theorem toList_written_amount (n : UInt64) :
    (PlainValue.amount n).written.toList = Nat.toDigits 10 n.toNat := Nat.toList_repr

/-- A digit may stand in a key, and so in a word. -/
theorem isKeyChar_of_mem_toDigits {n : ℕ} {c : Char} (h : c ∈ Nat.toDigits 10 n) : isKeyChar c := by
  rw [isKeyChar, Char.isAlphanum, Nat.isDigit_of_mem_toDigits (by decide) (by decide) h]
  simp

/-- A value ends with its line. -/
theorem lexeme_value {v : PlainValue} (hv : v.IsProper) (rest : List Char) :
    lexeme (v.written.toList ++ '\n' :: rest) = some (v.token, '\n' :: rest) := by
  cases v with
  | amount n =>
    rw [toList_written_amount]
    exact lexeme_word Nat.toDigits_ne_nil (fun c hc => isKeyChar_of_mem_toDigits hc) rfl
  | text s =>
    rw [PlainValue.written, String.toList_append, String.toList_append, List.append_assoc,
      List.append_assoc]
    exact lexeme_text hv (by simp)

/-- A value does not begin with a space. -/
theorem isSpace_head?_written (v : PlainValue) (rest : List Char) :
    ∀ c ∈ (v.written.toList ++ rest).head?, isSpace c = false := by
  cases v with
  | amount n =>
    obtain ⟨d, ds, hds⟩ := List.exists_cons_of_ne_nil (Nat.toDigits_ne_nil (n := n.toNat) (b := 10))
    rw [toList_written_amount, hds]
    rintro _ ⟨⟩
    exact isSpace_of_isKeyChar (isKeyChar_of_mem_toDigits (hds ▸ List.mem_cons_self))
  | text s =>
    rw [PlainValue.written, String.toList_append, String.toList_append]
    rintro _ ⟨⟩
    rfl

/-- A line is cut into its tokens, whatever follows it. -/
theorem tokens?_line {k : String} {v : PlainValue} (hk : IsBareKey k) (hv : v.IsProper)
    (rest : List Char) :
    tokens? ((k ++ " = " ++ v.written ++ "\n").toList ++ rest) =
      (tokens? rest).map (.word k.toList :: .blank [' '] :: .equals :: .blank [' '] :: v.token ::
        .newline :: ·) := by
  simp only [String.toList_append, List.append_assoc]
  change tokens? (k.toList ++ ' ' :: '=' :: ' ' :: (v.written.toList ++ '\n' :: rest)) = _
  -- Six tokens, from the left to the right.
  rw [tokens?_cons (lexeme_word hk.toList_ne_nil hk.isKeyChar rfl),
    tokens?_cons (lexeme_blank (by simp [isSpace])), tokens?_cons (t := .equals) rfl,
    tokens?_cons (lexeme_blank (isSpace_head?_written v _)), tokens?_cons (lexeme_value hv rest),
    tokens?_cons (lexeme_newline rest)]
  simp only [Option.map_map, Function.comp_def]

/-- Lines are cut into their tokens one after the other. -/
theorem tokens?_lines {es : Lines} (hes : es.IsProper) (rest : List Char) :
    tokens? (es.text.toList ++ rest) = (tokens? rest).map (es.tokens ++ ·) := by
  obtain ⟨-, hbare, hvalue⟩ := hes
  induction es with
  | nil => simp [Lines.text, Lines.tokens]
  | cons e es ih =>
    rw [List.forall_mem_cons] at hbare hvalue
    rw [Lines.text, String.toList_append, List.append_assoc, tokens?_line hbare.1 hvalue.1,
      ih hbare.2 hvalue.2, Option.map_map]
    rfl

/-- The line with the name of a section. -/
theorem tokens?_header {k : String} (hk : IsBareKey k) (rest : List Char) :
    tokens? (("[" ++ k ++ "]\n").toList ++ rest) =
      (tokens? rest).map (.openBracket :: .word k.toList :: .closeBracket :: .newline :: ·) := by
  simp only [String.toList_append, List.append_assoc]
  change tokens? ('[' :: (k.toList ++ ']' :: '\n' :: rest)) = _
  rw [tokens?_cons (t := .openBracket) rfl,
    tokens?_cons (lexeme_word hk.toList_ne_nil hk.isKeyChar rfl),
    tokens?_cons (t := .closeBracket) rfl, tokens?_cons (lexeme_newline rest)]
  simp only [Option.map_map, Function.comp_def]

/-- Sections are cut into their tokens up to the end of the document. -/
theorem tokens?_sections {ss : Sections} (hbare : ∀ t ∈ ss, IsBareKey t.1)
    (hss : ∀ t ∈ ss, t.2.IsProper) : tokens? ss.text.toList = some ss.tokens := by
  induction ss with
  | nil => simp [Sections.text, Sections.tokens, tokens?]
  | cons t ss ih =>
    rw [List.forall_mem_cons] at hbare hss
    rw [Sections.text, String.toList_append, String.toList_append, List.append_assoc,
      tokens?_header hbare.1, tokens?_lines hss.1, ih hbare.2 hss.2, Option.map_some,
      Option.map_some]
    rfl

/-- A sheet is cut into the tokens it was put together from. -/
theorem tokens?_sheet {s : Sheet} (hs : s.IsProper) : tokens? s.text.toList = some s.tokens := by
  rw [Sheet.text, String.toList_append, tokens?_lines hs.lines,
    tokens?_sections hs.bare hs.sections]
  rfl

/-! ## Statements -/

/-- A key without quotes is one segment, before an equals sign as well as before a bracket. -/
theorem key_bare {k : String} (hk : IsBareKey k) (ts : List Token) :
    key (.word k.toList :: .blank [' '] :: .equals :: ts) = some ([k], .equals :: ts) ∧
      key (.word k.toList :: .closeBracket :: ts) = some ([k], .closeBracket :: ts) := by
  constructor
  · simp [key, segments, hk.2, keyLimit]
  · simp [key, segments, hk.2, keyLimit]

/-- The token of a value is read as the value, up to the end of its line. -/
theorem value_token (v : PlainValue) (ts : List Token) :
    value nestingLimit (v.token :: .newline :: ts) = some (v.document, .newline :: ts) := by
  cases v with
  | amount n =>
    -- A larger number would not be read as an integer.
    have hn : n.toNat ≤ largestInteger := by
      have := n.toNat_lt
      rw [largestInteger]
      omega
    simp [PlainValue.token, PlainValue.document, nestingLimit, value, word, wordRun,
      wordValue?_toDigits hn]
  | text s => simp [PlainValue.token, PlainValue.document, value]

/-- A line is one statement, which gives its key its value. -/
theorem statement_line {k : String} {v : PlainValue} (hk : IsBareKey k) (ts : List Token) :
    statement (.word k.toList :: .blank [' '] :: .equals :: .blank [' '] :: v.token ::
      .newline :: ts) = some (.entry [k] v.document, .newline :: ts) := by
  simp [statement, keyValue, (key_bare hk _).1, skipBlank, value_token]

/-- The name between brackets is the header of its section. -/
theorem statement_header {k : String} (hk : IsBareKey k) (ts : List Token) :
    statement (.openBracket :: .word k.toList :: .closeBracket :: .newline :: ts) =
      some (.header [k], .newline :: ts) := by
  simp [statement, (key_bare hk _).2]

/-- After a statement that takes up its line, the reading goes on with the next line. -/
theorem statements_succ {t : Token} {ts rest : List Token} {s : Statement}
    (ht : t.isFiller = false) (hs : statement (t :: ts) = some (s, .newline :: rest)) (n : ℕ) :
    statements (n + 1) (t :: ts) = (statements n rest).map (s :: ·) := by
  have hskip : skipFiller (t :: ts) = t :: ts := List.dropWhile_cons_of_neg (by simp [ht])
  simp [statements, hskip, hs, endLine, skipBlank, skipComment]

/-- The reading of lines costs one step of the fuel for each. -/
theorem statements_lines {es : Lines} (hes : es.IsProper) (n : ℕ) (ts : List Token) :
    statements (n + es.length) (es.tokens ++ ts) = (statements n ts).map (es.statements ++ ·) := by
  obtain ⟨-, hbare, -⟩ := hes
  induction es with
  | nil => simp [Lines.tokens, Lines.statements]
  | cons e es ih =>
    rw [List.forall_mem_cons] at hbare
    have hline := statements_succ rfl (statement_line hbare.1 (v := e.2) (Lines.tokens es ++ ts))
      (n + es.length)
    rw [ih hbare.2, Option.map_map] at hline
    exact hline

/-- Sections are read as their headers, each with the statements of its lines. -/
theorem statements_sections {ss : Sections} (hbare : ∀ t ∈ ss, IsBareKey t.1)
    (hss : ∀ t ∈ ss, t.2.IsProper) (n : ℕ) :
    statements (n + 1 + ss.statements.length) ss.tokens = some ss.statements := by
  induction ss with
  | nil => rfl
  | cons t ss ih =>
    rw [List.forall_mem_cons] at hbare hss
    have hheader := statements_succ rfl
      (statement_header hbare.1 (Lines.tokens t.2 ++ Sections.tokens ss))
      (n + 1 + (Sections.statements ss).length + t.2.length)
    rw [statements_lines hss.1, ih hbare.2 hss.2] at hheader
    -- One step for the header, and one for each line below it.
    have hlength : n + 1 + (Sections.statements (t :: ss)).length =
        n + 1 + (Sections.statements ss).length + t.2.length + 1 := by
      simp [Sections.statements, Lines.statements]
      omega
    rw [hlength]
    exact hheader

theorem Lines.length_le (es : Lines) : es.length ≤ es.tokens.length := by
  induction es with
  | nil => exact Nat.le_refl _
  | cons e es ih =>
    simp only [tokens, List.flatMap_cons, List.length_append, List.length_cons] at ih ⊢
    omega

/-- There are no more statements than tokens, so the fuel of a document lasts to its end. -/
theorem Sections.length_statements_le (ss : Sections) :
    ss.statements.length ≤ ss.tokens.length := by
  induction ss with
  | nil => exact Nat.le_refl _
  | cons t ss ih =>
    have := Lines.length_le t.2
    simp only [statements, tokens, Lines.statements, List.flatMap_cons, List.length_append,
      List.length_cons, List.length_map] at ih ⊢
    omega

/-- A sheet is read as its statements. -/
theorem statements_sheet {s : Sheet} (hs : s.IsProper) :
    statements (s.tokens.length + 1) s.tokens = some s.statements := by
  -- There is a token for every statement and one step to spare.
  have hfuel : 1 + s.sections.statements.length + s.lines.length ≤ s.tokens.length + 1 := by
    have hlines := s.lines.length_le
    have hsections := s.sections.length_statements_le
    rw [Sheet.tokens, List.length_append]
    omega
  obtain ⟨n, hn⟩ := Nat.exists_eq_add_of_le' hfuel
  rw [hn, ← Nat.add_assoc, ← Nat.add_assoc, Sheet.tokens, statements_lines hs.lines,
    statements_sections hs.bare hs.sections]
  rfl

/-! ## Tables -/

section

variable {es : Entries} {k : String} {f : Option Node → Option Node}

/-- A key is looked for behind the entries that do not have it. -/
theorem alter_append (hk : k ∉ es.map Prod.fst) (es' : Entries) :
    alter k f (es ++ es') = (alter k f es').map (es ++ ·) := by
  induction es with
  | nil => simp
  | cons e es ih =>
    obtain ⟨k', n⟩ := e
    rw [List.map_cons, List.mem_cons, not_or] at hk
    rw [List.cons_append, alter, if_neg (Ne.symm hk.1), ih hk.2, Option.map_map]
    rfl

/-- A key that is not there yet is added at the end. -/
theorem alter_of_not_mem (hk : k ∉ es.map Prod.fst) :
    alter k f es = (f none).map fun n => es ++ [(k, n)] := by
  have h := alter_append (f := f) hk []
  rw [List.append_nil, alter, Option.map_map] at h
  exact h

/-- A key that is there as the last one is changed in its place. -/
theorem alter_concat (hk : k ∉ es.map Prod.fst) (n : Node) :
    alter k f (es ++ [(k, n)]) = (f (some n)).map fun n' => es ++ [(k, n')] := by
  rw [alter_append hk, alter, if_pos rfl, Option.map_map]
  rfl

theorem assign_of_not_mem (hk : k ∉ es.map Prod.fst) (d : Document) :
    assign [k] d .header es = some (es ++ [(k, .closed d)]) := by
  change alter k _ es = _
  rw [alter_of_not_mem hk]
  rfl

theorem openTable_of_not_mem (hk : k ∉ es.map Prod.fst) :
    openTable [k] es = some (es ++ [(k, .table .header [])]) := by
  change alter k _ es = _
  rw [alter_of_not_mem hk]
  rfl

end

/-- A key that comes next is none of those that came before. -/
theorem not_mem_of_nodup {ks ks' : List String} {k : String} (h : (ks ++ k :: ks').Nodup) :
    k ∉ ks := fun hmem =>
  (List.nodup_append.1 h).2.2 k hmem k List.mem_cons_self rfl

/-- The entries that lines make in the table to which they belong. -/
def Lines.nodes (es : Lines) : Entries := es.map fun e => (e.1, .closed e.2.document)

def Sections.nodes (ss : Sections) : Entries := ss.map fun s => (s.1, .table .header s.2.nodes)

/-- Lines go one after the other into the table that is at hand; `put` says where that is. -/
theorem foldlM_lines {put : Entries → Assembly}
    (hput : ∀ es path d, (put es).add (.entry path d) = (assign path d .header es).map put)
    {es : Lines} (before : Entries) (hnodup : (before.map Prod.fst ++ es.map Prod.fst).Nodup) :
    es.statements.foldlM Assembly.add (put before) = some (put (before ++ es.nodes)) := by
  induction es generalizing before with
  | nil => simp [Lines.statements, Lines.nodes]
  | cons e es ih =>
    obtain ⟨k, v⟩ := e
    have hk : k ∉ before.map Prod.fst := not_mem_of_nodup hnodup
    rw [Lines.statements, List.map_cons, List.foldlM_cons, hput, assign_of_not_mem hk]
    refine (ih _ (by simpa using hnodup)).trans ?_
    rw [List.append_assoc]
    rfl

/-- The document while the lines of the section `k` are read. -/
def inSection (before : Entries) (k : String) (inner : Entries) : Assembly :=
  ⟨before ++ [(k, .table .header inner)], [k]⟩

/-- A header opens a table for its section, into which the lines below it go. -/
theorem foldlM_section {before : Entries} {k : String} {es : Lines}
    (hk : k ∉ before.map Prod.fst) (hes : es.IsProper) (current : List String) :
    (Statement.header [k] :: es.statements).foldlM Assembly.add ⟨before, current⟩ =
      some (inSection before k es.nodes) := by
  have hheader : Assembly.add ⟨before, current⟩ (.header [k]) = some (inSection before k []) := by
    rw [Assembly.add, openTable_of_not_mem hk]
    rfl
  -- An entry is put into the last table, which the header has opened.
  have hput (inner : Entries) (path : List String) (d : Document) :
      (inSection before k inner).add (.entry path d) =
        (assign path d .header inner).map (inSection before k) := by
    rw [inSection, Assembly.add, within, alter_concat hk]
    simp only [within, Bool.false_and, Bool.false_eq_true, if_false, Option.map_map]
    rfl
  rw [List.foldlM_cons, hheader]
  exact foldlM_lines hput [] hes.nodup

/-- Sections are added one after the other, below what there was before. -/
theorem foldlM_sections {ss : Sections} {before : Entries}
    (hnodup : (before.map Prod.fst ++ ss.map Prod.fst).Nodup) (hss : ∀ t ∈ ss, t.2.IsProper)
    (current : List String) :
    ∃ path, ss.statements.foldlM Assembly.add ⟨before, current⟩ =
      some ⟨before ++ ss.nodes, path⟩ := by
  induction ss generalizing before current with
  | nil => exact ⟨current, by simp [Sections.statements, Sections.nodes]⟩
  | cons t ss ih =>
    obtain ⟨k, es⟩ := t
    rw [List.forall_mem_cons] at hss
    have hk : k ∉ before.map Prod.fst := not_mem_of_nodup hnodup
    -- What the next sections find already contains this one.
    have hnodup' : ((inSection before k es.nodes).root.map Prod.fst ++ ss.map Prod.fst).Nodup := by
      simpa [inSection] using hnodup
    obtain ⟨path, hpath⟩ := ih hnodup' hss.2 [k]
    refine ⟨path, ?_⟩
    rw [Sections.statements, List.flatMap_cons, List.foldlM_append, foldlM_section hk hss.1]
    rw [inSection, List.append_assoc] at hpath
    exact hpath

theorem documentEntries_nodes (es : Lines) : documentEntries es.nodes = es.entries := by
  simp [documentEntries_eq_map, Lines.nodes, Lines.entries, Node.toDocument]

/-- The statements of a sheet add up to what it says. -/
theorem assemble_sheet {s : Sheet} (hs : s.IsProper) : assemble s.statements = some s.document := by
  -- Before the first header, entries are put into the document itself.
  have hput (es : Entries) (path : List String) (d : Document) :
      Assembly.add ⟨es, []⟩ (.entry path d) =
        (assign path d .header es).map fun es => ⟨es, []⟩ := rfl
  have hkeys : (s.lines.nodes.map Prod.fst ++ s.sections.map Prod.fst).Nodup := by
    simpa [Lines.nodes, Function.comp_def] using hs.nodup
  have hlines : s.lines.statements.foldlM Assembly.add {} = some ⟨s.lines.nodes, []⟩ :=
    foldlM_lines hput [] hs.lines.nodup
  obtain ⟨path, hsections⟩ := foldlM_sections hkeys hs.sections []
  have hall : s.statements.foldlM Assembly.add {} =
      some ⟨s.lines.nodes ++ s.sections.nodes, path⟩ := by
    rw [Sheet.statements, List.foldlM_append, hlines]
    exact hsections
  rw [assemble, hall, Option.map_some, documentEntries_eq_map, List.map_append,
    ← documentEntries_eq_map, documentEntries_nodes, Sheet.document]
  simp [Sections.nodes, Sections.entries, Node.toDocument, documentEntries_nodes]

/-- A sheet does not begin with a byte order mark. -/
theorem head?_text_ne {s : Sheet} (hs : s.IsProper) : s.text.toList.head? ≠ some '\ufeff' := by
  have hkey {k : String} (hk : IsBareKey k) (rest : List Char) :
      (k.toList ++ rest).head? ≠ some '\ufeff' := by
    obtain ⟨c, cs, hcs⟩ := List.exists_cons_of_ne_nil hk.toList_ne_nil
    rw [hcs]
    rintro ⟨⟩
    exact absurd (hk.isKeyChar '\ufeff' (hcs ▸ List.mem_cons_self)) (by decide)
  -- The first character is that of a key, or a bracket, or there is none.
  rcases s with ⟨_ | ⟨e, es⟩, ss⟩
  · rcases ss with _ | ⟨t, ss⟩
    · decide
    · simp [Sheet.text, Lines.text, Sections.text]
  · have := hkey (hs.lines.bare e List.mem_cons_self)
    simp only [Sheet.text, Lines.text, String.toList_append, List.append_assoc]
    exact this _

/-- A sheet is read as it was written. -/
theorem read?_sheet {s : Sheet} (hs : s.IsProper) : Document.read? s.text = some s.document := by
  rw [Document.read?_eq (head?_text_ne hs) (tokens?_sheet hs) (statements_sheet hs),
    assemble_sheet hs]

end OpeningTerms.Toml
