import OpeningTerms.Pattern.CharSet
import OpeningTerms.Text.Alphanumeric

/-!
# Patterns

A pattern is a list of *branches* with bars between them. A branch is a list of *items*:
atoms, sets of characters, groups in parentheses with a pattern inside, each with any
number of signs of repetition behind it, and changes of the mode, which hold up to the
end of the group that they stand in. A group may have a name, which is used once, or a
mode of its own.

Repetitions by number are written between braces, and there is no closing brace where
these patterns stand; so an opening brace that does not stand for itself is a mistake.

* `fault?`: what is wrong with a pattern.
-/

namespace OpeningTerms.Pattern

open OpeningTerms.Text

/-- What can be wrong with a pattern. -/
inductive Fault where
  /-- It does not follow the grammar, or asks for characters that cannot be matched. -/
  | malformed
  /-- It asks for the borders of words while characters are matched. -/
  | wordEdge
deriving DecidableEq

/-- How deep a pattern may be nested. -/
def nestingLimit : Nat := 250

/-! ## Groups -/

/-- What an opening parenthesis begins. -/
inductive Opening where
  /-- A change of the mode, and nothing else. -/
  | change (m : Mode)
  | group (m : Mode) (name : Option (List Char))

/-- A character of the name of a group, the first one or another. -/
def isNameChar (isFirst : Bool) (c : Char) : Bool :=
  c == '_' ||
    if isFirst then isAlphabetic c else c == '.' || c == '[' || c == ']' || isAlphanumeric c

/-- The name of a group up to the `>` behind it, with what follows. -/
def groupName (s : List Char) : Option (List Char × List Char) :=
  let name := s.takeWhile (· != '>')
  match name, s.dropWhile (· != '>') with
  | c :: cs, _ :: rest =>
    if isNameChar true c && cs.all (isNameChar false) then some (name, rest) else none
  | _, _ => none

/-- A letter that changes the mode. -/
def isModeLetter (c : Char) : Bool := ['i', 'm', 's', 'U', 'u', 'R', 'x'].contains c

/-- The mode after a change that is written as letters, those behind a hyphen for what is
    switched off. Each of them is written at most once. -/
def Mode.change (m : Mode) (s : List Char) : Option Mode :=
  let on := s.takeWhile (· != '-')
  let off := s.dropWhile (· != '-')
  let switched (letter : Char) (before : Bool) : Bool :=
    on.contains letter || before && !off.contains letter
  if s.all (fun c => (c == '-' || isModeLetter c) && s.count c == 1) && s.getLast? != some '-' then
    some ⟨switched 'i' m.ignoreCase, switched 'u' m.unicode, switched 'x' m.verbose⟩
  else none

/-- What an opening parenthesis in front of `s` begins, with what follows. -/
def opening (m : Mode) (s : List Char) : Option (Opening × List Char) :=
  match m.skip s with
  | '?' :: 'P' :: '<' :: r => (groupName r).map fun (name, r) => (.group m (some name), r)
  | '?' :: '<' :: r => (groupName r).map fun (name, r) => (.group m (some name), r)
  | '?' :: r =>
    let isLetter (c : Char) := c != ':' && c != ')'
    let letters := r.takeWhile isLetter
    match r.dropWhile isLetter with
    | ':' :: rest => (m.change letters).map fun m => (.group m none, rest)
    | _ :: rest => if letters = [] then none else (m.change letters).map fun m => (.change m, rest)
    | [] => none
  | r => some (.group m none, r)

/-! ## Items and branches -/

/-- What has been read of a pattern since the group began that it stands in. -/
structure Level where
  /-- The depths of the items of the last branch, the last one first. A change of the mode
      has no depth, and cannot be repeated. -/
  items : List (Option Nat) := []
  /-- The depth of the deepest branch before, if there is one. -/
  before : Option Nat := none

namespace Level

/-- One more item. -/
def add (l : Level) (depth : Option Nat) : Level := { l with items := depth :: l.items }

/-- The depth of the last branch. -/
def branch (l : Level) : Nat :=
  let deepest := l.items.foldl (fun d item => max d (item.getD 0)) 0
  if l.items.length ≤ 1 then deepest else deepest + 1

/-- The depth of all branches. -/
def depth (l : Level) : Nat :=
  match l.before with
  | none => l.branch
  | some d => 1 + max d l.branch

/-- One more branch. -/
def split (l : Level) : Level := ⟨[], some (max (l.before.getD 0) l.branch)⟩

/-- The last item repeated, if it can be. -/
def repeated (l : Level) : Option Level :=
  match l.items with
  | some d :: items => some { l with items := some (d + 1) :: items }
  | _ => none

end Level

/-- Where the reading of a pattern stands. -/
structure Reading where
  level : Level := {}
  mode : Mode := {}
  /-- The levels outside of the open groups, the innermost first, with their modes. -/
  outer : List (Level × Mode) := []
  /-- The names of groups. -/
  names : List (List Char) := []
  /-- Whether the borders of words have been asked for while characters are matched. -/
  hasWordEdge : Bool := false

/-- One more atom, if it is allowed. -/
def Reading.add (r : Reading) (a : Atom) : Option Reading :=
  if a.isAllowed r.mode then
    some { r with
      level := r.level.add (some 0)
      hasWordEdge := r.hasWordEdge || (r.mode.unicode && a matches .wordEdge) }
  else none

/-- What an opening parenthesis does. -/
def Reading.enter (r : Reading) : Opening → Option Reading
  | .change m => some { r with level := r.level.add none, mode := m }
  | .group m name =>
    if name.any r.names.contains then none
    else some { r with
      level := {}, mode := m, outer := (r.level, r.mode) :: r.outer
      names := name.toList ++ r.names }

/-- What a closing parenthesis does. -/
def Reading.leave (r : Reading) : Option Reading :=
  match r.outer with
  | [] => none
  | (level, mode) :: outer =>
    some { r with level := level.add (some (r.level.depth + 1)), mode, outer }

/-- The part of a pattern that begins with `c`, with what is left. -/
def Reading.part (r : Reading) (c : Char) (s : List Char) : Option (Reading × List Char) :=
  match c with
  | '(' => do
    let (o, s) ← opening r.mode s
    (r.enter o).map (·, s)
  | ')' => r.leave.map (·, s)
  | '|' => some ({ r with level := r.level.split }, s)
  | '[' => (charSet r.mode s).map fun (d, s) => ({ r with level := r.level.add (some d) }, s)
  | '?' | '*' | '+' =>
    r.level.repeated.map fun level =>
      ({ r with level }, if s.head? = some '?' then s.drop 1 else s)
  | '\x7b' => none
  | '\\' => do
    let (a, s) ← escape r.mode s
    (r.add a).map (·, s)
  | '.' => (r.add .any).map (·, s)
  | '^' | '$' => (r.add .edge).map (·, s)
  | _ => (r.add (.character c false)).map (·, s)

/-- The reading of a pattern to its end. The number bounds its parts; each takes at least
    one character. -/
def Reading.finish : Nat → Reading → List Char → Option Reading
  | 0, _, _ => none
  | n + 1, r, s =>
    match r.mode.skip s with
    | [] => some r
    | c :: s => (r.part c s).bind fun (r, s) => r.finish n s

/-- What is wrong with a pattern. -/
def fault? (s : List Char) : Option Fault :=
  match ({} : Reading).finish (s.length + 1) s with
  | none => some .malformed
  | some r =>
    if !r.outer.isEmpty || nestingLimit < r.level.depth then some .malformed
    else if r.hasWordEdge then some .wordEdge
    else none

end OpeningTerms.Pattern
