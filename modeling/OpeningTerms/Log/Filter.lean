import OpeningTerms.Log.Event
import OpeningTerms.Log.FieldValue
import OpeningTerms.Text.Alphanumeric

/-!
# Filters

A filter is a list of *directives* with commas between them. A directive names a target, a
span, a field, each of them optional, and a level:

    target[span{field}]=level

It is about the events of the targets that begin with its target and that have its field,
and lets them through up to its level. Of all directives about an event the most specific
decides. There are no spans in this program, so a directive with a span, or with a value
that the field of a span should have, is about nothing.

A directive is scanned without the white space around it, but its parts are cut out of the
text with that white space, at the same offsets in bytes: white space in front of a
directive shifts all its parts to the left. A shifted offset may be within a character. No
part can be cut out there, and the reader does not take this for a fault of the text: it
breaks off, and the whole program with it.

* `dropBytes_append`, `takeBytes_append`: an offset that is the length of a part cuts right
  behind that part;
* `Filter.ofText`: the directives of a text, or what comes of the first that is not read;
* `Filter.admits`: whether an event is let through.
-/

namespace OpeningTerms.Log

open OpeningTerms.Text

/-- A rule for some events. -/
structure Directive where
  /-- What the target of an event has to begin with. -/
  target : Option String := none
  span : Option String := none
  /-- A field that an event must have, and possibly a value of it. -/
  field : Option (String × Option String) := none
  verbosity : Verbosity := .all

/-- The directives of a filter in the order of its text. -/
abbrev Filter := List Directive

/-- Why a text is not read as a filter. -/
inductive FilterError where
  /-- The text is none. -/
  | invalid (fault : FilterFault)
  /-- A part of a directive would begin or end within a character, where the reader breaks off. -/
  | brokenOff
deriving DecidableEq

/-! ## Cutting -/

/-- The number of bytes of a text. -/
def byteLength : List Char → Nat
  | [] => 0
  | c :: s => c.utf8Size + byteLength s

/-- The text from the byte offset `n` on, if a character begins there. -/
def dropBytes : Nat → List Char → Option (List Char)
  | 0, s => some s
  | _ + 1, [] => none
  | n + 1, c :: s => if c.utf8Size ≤ n + 1 then dropBytes (n + 1 - c.utf8Size) s else none

/-- The text before the byte offset `n`, if a character begins there. -/
def takeBytes : Nat → List Char → Option (List Char)
  | 0, _ => some []
  | _ + 1, [] => none
  | n + 1, c :: s =>
    if c.utf8Size ≤ n + 1 then (takeBytes (n + 1 - c.utf8Size) s).map (c :: ·) else none

/-- The part of a text between two byte offsets. -/
def cut (s : List Char) (first last : Nat) : Except FilterError (List Char) :=
  match (dropBytes first s).bind (takeBytes (last - first)) with
  | some t => .ok t
  | none => .error .brokenOff

/-- The part of a text from a byte offset on. -/
def cutFrom (s : List Char) (first : Nat) : Except FilterError (List Char) :=
  match dropBytes first s with
  | some t => .ok t
  | none => .error .brokenOff

/-- Behind a part of a text, the rest begins. -/
theorem dropBytes_append (s t : List Char) : dropBytes (byteLength s) (s ++ t) = some t := by
  induction s with
  | nil => simp [byteLength, dropBytes]
  | cons c s ih =>
    have hc := c.utf8Size_pos
    obtain ⟨n, hn⟩ : ∃ n, byteLength (c :: s) = n + 1 := ⟨byteLength (c :: s) - 1, by
      simp only [byteLength]
      omega⟩
    have hs : n + 1 - c.utf8Size = byteLength s := by
      rw [← hn, byteLength, Nat.add_sub_cancel_left]
    rw [hn, List.cons_append, dropBytes, if_pos (by rw [← hn, byteLength]; omega), hs, ih]

/-- The part of a text with its own number of bytes is the part itself. -/
theorem takeBytes_append (s t : List Char) : takeBytes (byteLength s) (s ++ t) = some s := by
  induction s with
  | nil => simp [byteLength, takeBytes]
  | cons c s ih =>
    have hc := c.utf8Size_pos
    obtain ⟨n, hn⟩ : ∃ n, byteLength (c :: s) = n + 1 := ⟨byteLength (c :: s) - 1, by
      simp only [byteLength]
      omega⟩
    have hs : n + 1 - c.utf8Size = byteLength s := by
      rw [← hn, byteLength, Nat.add_sub_cancel_left]
    rw [hn, List.cons_append, takeBytes, if_pos (by rw [← hn, byteLength]; omega), hs, ih]
    rfl

/-! ## Directives -/

/-- A character with which a name may begin. -/
def isNameStart (c : Char) : Bool := c == '-' || c == ':' || c == '_' || isAlphanumeric c

/-- The level behind an equals sign; if it is left out, everything is let through. -/
def levelOf (s : List Char) : Except FilterError Verbosity :=
  if s = [] then .ok .all
  else
    match Verbosity.ofText? s with
    | some v => .ok v
    | none => .error (.invalid .level)

/-- A field, or a field and the value it should have. -/
def fieldOf (s : List Char) : Except FilterError (String × Option String) :=
  let isName (c : Char) := c != '='
  let name := String.ofList (s.takeWhile isName)
  match s.dropWhile isName with
  | [] => .ok (name, none)
  | _ :: r =>
    let value := r.takeWhile isName
    match valueFault? value with
    | some fault => .error (.invalid (.value fault))
    | none => .ok (name, some (.ofList value))

variable (full : List Char)

/-- The end of a directive: nothing, or a level. `rest` is what is left to be scanned, from
    the byte `offset` on. -/
def scanEnd (d : Directive) (offset : Nat) (rest : List Char) : Except FilterError Directive :=
  match rest with
  | [] => .ok d
  | '=' :: _ => do
    let v ← levelOf (← cutFrom full (offset + 1))
    .ok { d with verbosity := v }
  | _ => .error (.invalid .directive)

/-- What follows an opening brace: a field, a closing brace and a closing bracket. -/
def scanField (d : Directive) (offset : Nat) (rest : List Char) : Except FilterError Directive := do
  let run := rest.takeWhile (· != '\x7d')
  let finish := offset + byteLength run
  match rest.dropWhile (· != '\x7d') with
  | _ :: after =>
    let text ← cut full offset finish
    if text = [] then .error (.invalid .directive)
    else
      let field ← fieldOf text
      match after with
      | ']' :: rest => scanEnd full { d with field := some field } (finish + 2) rest
      | _ => .error (.invalid .directive)
  | [] => .error (.invalid .directive)

/-- What follows an opening bracket: a span, and possibly a field. -/
def scanSpan (d : Directive) (offset : Nat) (rest : List Char) : Except FilterError Directive := do
  let isSpan (c : Char) := c != ']' && c != '\x7b'
  let finish := offset + byteLength (rest.takeWhile isSpan)
  match rest.dropWhile isSpan with
  | ']' :: rest =>
    let span ← cut full offset finish
    scanEnd full { d with span := some (.ofList span) } (finish + 1) rest
  | _ :: rest =>
    let span ← cut full offset finish
    let d := if span = [] then d else { d with span := some (.ofList span) }
    scanField full d (finish + 1) rest
  | [] => .error (.invalid .directive)

/-- What begins with a name: a target, or a level and nothing else. -/
def scanName (s : List Char) : Except FilterError Directive := do
  let isName (c : Char) := c != '=' && c != '['
  let finish := byteLength (s.takeWhile isName)
  match s.dropWhile isName with
  | [] =>
    match Verbosity.ofText? full with
    | some v => .ok { verbosity := v }
    | none => .ok { target := some (.ofList full) }
  | '[' :: rest =>
    let target ← cut full 0 finish
    scanSpan full { target := some (.ofList target) } (finish + 1) rest
  | rest =>
    let target ← cut full 0 finish
    scanEnd full { target := some (.ofList target) } finish rest

/-- The directive that a text stands for. -/
def Directive.ofText : Except FilterError Directive :=
  match trimChars full with
  | [] => .error (.invalid .directive)
  | '[' :: rest => scanSpan full {} 1 rest
  | c :: rest => if isNameStart c then scanName full (c :: rest) else .error (.invalid .directive)

/-- The parts of a text between its commas. -/
def splitCommas : List Char → List (List Char)
  | [] => [[]]
  | c :: s =>
    match splitCommas s with
    | [] => [[c]]
    | part :: parts => if c = ',' then [] :: part :: parts else (c :: part) :: parts

/-- The filter that a text stands for. Empty parts say nothing. -/
def Filter.ofText (text : String) : Except FilterError Filter :=
  ((splitCommas text.toList).filter (· ≠ [])).mapM Directive.ofText

/-! ## Letting events through -/

/-- Whether a directive is about an event. -/
def Directive.concerns (d : Directive) (e : Event) : Bool :=
  d.span.isNone &&
    (match d.target with
      | none => true
      | some t => t.toList.isPrefixOf logTarget.toList) &&
    (match d.field with
      | none => true
      | some (k, none) => e.fields.contains k
      | some (_, some _) => false)

/-- The rank of a directive without a span: the length of its target in bytes, whether it
    has a field, and for directives equal in these, their targets and fields themselves. -/
def Directive.isBelow (d d' : Directive) : Bool :=
  let length (d : Directive) := match d.target with
    | none => 0
    | some t => t.utf8ByteSize + 1
  let name (d : Directive) := d.field.map (·.1)
  if length d ≠ length d' then length d < length d'
  else if (name d).isSome ≠ (name d').isSome then (name d').isSome
  else if d.target ≠ d'.target then d.target.getD "" < d'.target.getD ""
  else (name d).getD "" < (name d').getD ""

/-- The more specific of two directives, the later one if they are about the same. -/
def Directive.prefer (d later : Directive) : Directive := if later.isBelow d then d else later

/-- The directive that decides about an event. -/
def Filter.deciding (f : Filter) (e : Event) : Option Directive :=
  (f.filter (·.concerns e)).foldl (fun best d => some (best.elim d (·.prefer d))) none

/-- Whether an event is let through. -/
def Filter.admits (f : Filter) (e : Event) : Bool :=
  (f.deciding e).any fun d => d.verbosity.admits e.level

end OpeningTerms.Log
