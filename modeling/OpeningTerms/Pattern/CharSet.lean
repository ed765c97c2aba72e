import OpeningTerms.Pattern.Atom

/-!
# Sets of characters

A pattern gives a set of characters between brackets: by its members, which are single
characters, ranges, kinds of characters and sets again, with operators between groups of
them. A `^` in front turns a set into its complement.

A hyphen makes a range, unless it stands in front of all members or behind them; a
closing bracket is a member where it would leave a set empty. Sets may be nested, so the
reader keeps those that are open, and of each how deep its parts are nested.
-/

namespace OpeningTerms.Pattern

/-- A set that has been opened. -/
structure OpenSet where
  /-- Nothing but hyphens has been read. -/
  isFresh : Bool := true
  /-- The depth of what stands before the last operator. -/
  left : Option Nat := none
  /-- The number of members since then. -/
  count : Nat := 0
  /-- The depth of the deepest of these members. -/
  deepest : Nat := 0

namespace OpenSet

/-- The depth of the members since the last operator. -/
def operand (o : OpenSet) : Nat := if o.count ≤ 1 then o.deepest else o.deepest + 1

/-- The depth of all that stands in the set. -/
def inside (o : OpenSet) : Nat :=
  match o.left with
  | none => o.operand
  | some d => 1 + max d o.operand

/-- One more member, of the given depth. -/
def add (o : OpenSet) (depth : Nat) : OpenSet :=
  { o with count := o.count + 1, deepest := max o.deepest depth }

/-- One more operator. -/
def operate (o : OpenSet) : OpenSet := { isFresh := false, left := some o.inside }

end OpenSet

/-- The names of kinds of characters between brackets and colons. -/
def kindNames : List String := ["alnum", "alpha", "ascii", "blank", "cntrl", "digit", "graph",
  "lower", "print", "punct", "space", "upper", "word", "xdigit"]

/-- What follows a kind of characters that is given by its name, and whether the kind is
    negated. -/
def namedKind? : List Char → Option (Bool × List Char)
  | '[' :: ':' :: s =>
    let negated := decide (s.head? = some '^')
    let s := if negated then s.drop 1 else s
    match s.dropWhile (· != ':') with
    | ':' :: ']' :: rest =>
      if kindNames.contains (.ofList (s.takeWhile (· != ':'))) then some (negated, rest) else none
    | _ => none
  | _ => none

/-- Whether a kind of characters may be given by its name. -/
def Mode.allowsNamed (m : Mode) (negated : Bool) : Bool :=
  if m.unicode then !m.ignoreCase else !negated

/-- Whether a complement may be taken of a set; within a set, it counts as a member. -/
def Mode.allowsComplement (m : Mode) (isInner : Bool) : Bool :=
  m.unicode && !(isInner && m.ignoreCase)

/-- An atom between brackets. -/
def memberAtom (m : Mode) : List Char → Option (Atom × List Char)
  | [] => none
  | '\\' :: s => escape m s
  | c :: s => some (.character c false, s)

/-- What follows a member that is no set, if it is allowed. -/
def afterMember (m : Mode) (s : List Char) : Option (List Char) := do
  let (a, s) ← memberAtom m s
  guard (a.isMember m)
  let s := m.skip s
  match s with
  | '-' :: r =>
    if m.peek r = some ']' ∨ m.peek r = some '-' then some s
    else do
      let (b, r) ← memberAtom m (m.skip r)
      guard (b.isMember m)
      match a, b with
      | .character first _, .character last _ => if first ≤ last then some r else none
      | _, _ => none
  | _ => some s

/-- What follows the opening bracket of a set, without the `^`. -/
def afterOpening (m : Mode) (isInner : Bool) (s : List Char) : Option (List Char) :=
  match m.skip s with
  | '^' :: r => if m.allowsComplement isInner then some r else none
  | r => some r

/-- The depth of a set, with what follows it. `o` is the innermost open set, `outer` are
    the others. The number bounds the parts; each takes at least one character. -/
def setRest (m : Mode) :
    Nat → OpenSet → List OpenSet → List Char → Option (Nat × List Char)
  | 0, _, _, _ => none
  | n + 1, o, outer, s =>
    match m.skip s with
    | [] => none
    | c :: r =>
      if o.isFresh && (c = '-' || (c = ']' && o.count = 0)) then
        if (Atom.character c false).isMember m then
          setRest m n { o.add 0 with isFresh := c = '-' } outer r
        else none
      else
        let o := { o with isFresh := false }
        if c = ']' then
          match outer with
          | [] => some (1 + o.inside, r)
          | o' :: outer => setRest m n (o'.add (1 + o.inside)) outer r
        else if c = '[' then
          match namedKind? (c :: r) with
          | some (negated, r) =>
            if m.allowsNamed negated then setRest m n (o.add 0) outer r else none
          | none => (afterOpening m true r).bind (setRest m n {} (o :: outer))
        else if (c = '&' || c = '-' || c = '~') && r.head? = some c then
          setRest m n o.operate outer (r.drop 1)
        else (afterMember m (c :: r)).bind (setRest m n (o.add 0) outer)

/-- The depth of a set after its opening bracket, with what follows it. -/
def charSet (m : Mode) (s : List Char) : Option (Nat × List Char) :=
  (afterOpening m false s).bind (setRest m (s.length + 1) {} [])

end OpeningTerms.Pattern
