import OpeningTerms.Toml.Token
import OpeningTerms.Toml.Scalar
import OpeningTerms.Toml.Table

/-!
# Statements

A document is a list of statements, one a line: headers, and keys with their
values. Only inside brackets and braces may a value run over several lines; between
braces, lines may also end on either side of the equals sign, but not within a key.

The readers below take tokens from the front and return what is left. Values are
nested at most `nestingLimit` deep, which is also what their reader recurses on; a
dotted key has at most `keyLimit` segments.
-/

namespace OpeningTerms.Toml

open OpeningTerms.Text

/-- How deep arrays and inline tables may be nested. -/
def nestingLimit : Nat := 80

/-- How many segments a key may have. -/
def keyLimit : Nat := 80

/-- A statement of a document. -/
inductive Statement where
  /-- A table's header. -/
  | header (path : List String)
  /-- The header of one more table of an array. -/
  | item (path : List String)
  /-- A key with its value. -/
  | entry (path : List String) (value : Document)

/-- A character of a key that is written without quotes. -/
def isKeyChar (c : Char) : Bool := c.isAlphanum || c == '_' || c == '-'

/-- Drops the blank in front. -/
def skipBlank : List Token → List Token
  | .blank _ :: ts => ts
  | ts => ts

/-- Whether a token separates without saying anything. -/
def Token.isFiller : Token → Bool
  | .blank _ | .newline | .comment => true
  | _ => false

/-- Drops blanks, comments and line ends in front. -/
def skipFiller (ts : List Token) : List Token := ts.dropWhile Token.isFiller

/-! ## Keys -/

/-- The segments of a key, and what follows it and any blank behind it. The flag says
    that a segment has to come, at the beginning or after a dot. -/
def segments : Bool → List Token → Option (List String × List Token)
  | true, .blank _ :: ts => segments true ts
  | true, .word cs :: ts =>
    if cs.all isKeyChar then (segments false ts).map fun (ks, ts) => (.ofList cs :: ks, ts)
    else none
  | true, .text false cs :: ts => (segments false ts).map fun (ks, ts) => (.ofList cs :: ks, ts)
  | true, _ => none
  | false, .blank _ :: ts => segments false ts
  | false, .dot :: ts => segments true ts
  | false, ts => some ([], ts)

/-- A key of allowed length. -/
def key (ts : List Token) : Option (List String × List Token) :=
  (segments true ts).filter fun (ks, _) => ks.length ≤ keyLimit

/-! ## Values -/

/-- The words and dots in front, put together, and with them the blanks between them
    that have a word behind. -/
def wordRun : List Token → List Char × List Token
  | .word cs :: ts => let (ds, rest) := wordRun ts; (cs ++ ds, rest)
  | .dot :: ts => let (ds, rest) := wordRun ts; ('.' :: ds, rest)
  | .blank bs :: .word cs :: ts => let (ds, rest) := wordRun ts; (bs ++ cs ++ ds, rest)
  | ts => ([], ts)

/-- A value that is written as a word. -/
def word (ts : List Token) : Option (Document × List Token) :=
  let (cs, rest) := wordRun ts
  (wordValue? cs).map fun d => (d, rest)

/-- The items of an array after its opening bracket, to beyond the closing one. The
    number bounds the items; each takes at least one token. -/
def items (value : List Token → Option (Document × List Token)) :
    Nat → List Token → Option (List Document × List Token)
  | 0, _ => none
  | n + 1, ts =>
    match skipFiller ts with
    | .closeBracket :: ts => some ([], ts)
    | ts => do
      let (d, ts) ← value ts
      match skipFiller ts with
      | .closeBracket :: ts => some ([d], ts)
      | .comma :: ts => (items value n ts).map fun (ds, ts) => (d :: ds, ts)
      | _ => none

/-- A key, an equals sign and a value. What may separate them is for `skip` to drop. -/
def keyValue (skip : List Token → List Token)
    (value : List Token → Option (Document × List Token)) (ts : List Token) :
    Option ((List String × Document) × List Token) := do
  let (path, ts) ← key ts
  match skip ts with
  | .equals :: ts =>
    let (d, ts) ← value (skip ts)
    some ((path, d), ts)
  | _ => none

/-- The members of an inline table after its opening brace, to beyond the closing one.
    The number bounds the members. -/
def members (value : List Token → Option (Document × List Token)) :
    Nat → List Token → Option (List (List String × Document) × List Token)
  | 0, _ => none
  | n + 1, ts =>
    match skipFiller ts with
    | .closeBrace :: ts => some ([], ts)
    | ts => do
      let (m, ts) ← keyValue skipFiller value ts
      match skipFiller ts with
      | .closeBrace :: ts => some ([m], ts)
      | .comma :: ts => (members value n ts).map fun (ms, ts) => (m :: ms, ts)
      | _ => none

/-- A value with at most the given depth of brackets and braces. -/
def value : Nat → List Token → Option (Document × List Token)
  | _, .text _ cs :: ts => some (.text (.ofList cs), ts)
  | depth + 1, .openBracket :: ts =>
    (items (value depth) ts.length ts).map fun (ds, ts) => (.array ds, ts)
  | depth + 1, .openBrace :: ts => do
    let (ms, ts) ← members (value depth) ts.length ts
    let d ← inlineTable ms
    some (d, ts)
  | _, ts => word ts

/-! ## Lines -/

/-- The statement in front. -/
def statement : List Token → Option (Statement × List Token)
  | .openBracket :: .openBracket :: ts => do
    let (path, ts) ← key ts
    match ts with
    | .closeBracket :: .closeBracket :: ts => some (.item path, ts)
    | _ => none
  | .openBracket :: ts => do
    let (path, ts) ← key ts
    match ts with
    | .closeBracket :: ts => some (.header path, ts)
    | _ => none
  | ts =>
    (keyValue skipBlank (value nestingLimit) ts).map fun ((path, d), ts) => (.entry path d, ts)

/-- Drops a comment in front. -/
def skipComment : List Token → List Token
  | .comment :: ts => ts
  | ts => ts

/-- What is left after the rest of a line that has nothing more to say. -/
def endLine (ts : List Token) : Option (List Token) :=
  match skipComment (skipBlank ts) with
  | [] => some []
  | .newline :: ts => some ts
  | _ => none

/-- The statements of a document. The number bounds them; each takes a token. -/
def statements : Nat → List Token → Option (List Statement)
  | 0, _ => none
  | n + 1, ts =>
    match skipFiller ts with
    | [] => some []
    | ts => do
      let (s, ts) ← statement ts
      let ts ← endLine ts
      (statements n ts).map (s :: ·)

/-! ## The document -/

/-- Where the reading of the statements stands. -/
structure Assembly where
  /-- The document so far. -/
  root : Entries := []
  /-- The path of the last header. -/
  current : List String := []

/-- The effect of a statement. -/
def Assembly.add (a : Assembly) : Statement → Option Assembly
  | .header path => (openTable path a.root).map fun es => ⟨es, path⟩
  | .item path => (openItem path a.root).map fun es => ⟨es, path⟩
  | .entry path d =>
    (within false (assign path d) a.current .header a.root).map fun es => { a with root := es }

/-- The document that statements make, if they agree with each other. -/
def assemble (ss : List Statement) : Option Document :=
  (ss.foldlM Assembly.add {}).map fun a => .table (documentEntries a.root)

/-- The document that a text says, if it is well formed. A byte order mark in front
    does not belong to it. -/
def Document.read? (text : String) : Option Document := do
  let cs := text.toList
  let ts ← tokens? (if cs.head? = some '\ufeff' then cs.drop 1 else cs)
  let ss ← statements (ts.length + 1) ts
  assemble ss

/-- A document is read from tokens to statements, and from these to tables. -/
theorem Document.read?_eq {s : String} {ts : List Token} {ss : List Statement}
    (hs : s.toList.head? ≠ some '\ufeff') (hts : tokens? s.toList = some ts)
    (hss : statements (ts.length + 1) ts = some ss) : Document.read? s = assemble ss := by
  simp [Document.read?, hs, hts, hss]

end OpeningTerms.Toml
