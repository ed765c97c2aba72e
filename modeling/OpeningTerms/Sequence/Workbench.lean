import OpeningTerms.Sequence.Pull

/-!
# The workbench

A *workbench* holds generators side by side, in the order in which they were
made. A step makes a new one, from a seed or as a copy, or acts on one of them.
A copy takes the count of given values along, and goes its own way from there.

* `Workbench.perform`: what a step answers, on which generator it acted, and
  the workbench after it. It has no answer where the step names a generator that
  does not exist, strides by nothing, or pulls for ever.
-/

namespace OpeningTerms

/-- What can be done with one of the generators. -/
inductive Action where
  /-- A step that reports an overflow. -/
  | nextValue
  /-- A step that gives a value or none. -/
  | next
  /-- Look at the generator without touching it. -/
  | look
  /-- Describe the generator. -/
  | describe
  /-- Bounds on the number of values to come, known without pulling any. -/
  | sizeHint
  /-- Compare with another generator, counts included. -/
  | compare (other : Nat)
  | take (n : Nat)
  /-- All the values to come. -/
  | collect
  /-- The number of values to come. -/
  | count
  /-- The last value to come. -/
  | last
  /-- The largest value to come. -/
  | max
  | nth (n : Nat)
  | skipTake (skip n : Nat)
  /-- A stride of nothing is refused. -/
  | stepBy (stride n : Nat)
  /-- The values up to the first that `p` does not accept, which is lost. -/
  | takeWhile (p : UInt64 → Bool)
  /-- The first value that `p` accepts. -/
  | find (p : UInt64 → Bool)
  /-- How many values come before the first that `p` accepts. -/
  | findIdx (p : UInt64 → Bool)
  /-- Up to `n` pairs with the values of another generator. -/
  | zip (other n : Nat)

namespace Action

/-- The values up to the first above `limit`, which is lost. -/
def takeWhileLe (limit : UInt64) : Action := .takeWhile fun v => decide (v ≤ limit)

/-- The first value that is `limit` or more. -/
def findGe (limit : UInt64) : Action := .find fun v => decide (limit ≤ v)

/-- How many values come before the first equal to `value`. -/
def position (value : UInt64) : Action := .findIdx fun v => v == value

end Action

/-- A step on a workbench. -/
inductive WorkStep where
  /-- Make a generator from a seed. -/
  | create (seed : Seed)
  /-- Make a copy of a generator. -/
  | clone (source : Nat)
  /-- Act on a generator. -/
  | act (target : Nat) (action : Action)

/-- What a step answers. -/
inductive Answer where
  /-- The place of the generator that was made. -/
  | made (place : Nat)
  /-- What a step of the generator came to. -/
  | stepped (result : Except Overflow UInt64)
  /-- Nothing to tell. -/
  | nothing
  | text (s : String)
  | bounds (lower : Nat) (upper : Option Nat)
  | truth (b : Bool)
  | values (vs : List UInt64)
  | number (n : Nat)
  | value (v : Option UInt64)
  /-- A number, if there was anything to count up to. -/
  | place (n : Option Nat)
  /-- Pairs, and the other generator afterwards. -/
  | pairs (ps : List (UInt64 × UInt64)) (other : Generator)

/-- Generators side by side. -/
structure Workbench where
  /-- The generators in the order in which they were made. -/
  generators : List Generator := []

namespace Workbench

variable (b : Workbench)

/-- The workbench with one more generator at the end. -/
def add (g : Generator) : Workbench := ⟨b.generators ++ [g]⟩

/-- The workbench with `g` in the place of an old generator. -/
def put (i : Nat) (g : Generator) : Workbench := ⟨b.generators.set i g⟩

/-- To put a generator into its own place changes nothing. -/
theorem put_self {b : Workbench} {i : Nat} {g : Generator} (h : b.generators[i]? = some g) :
    b.put i g = b := by
  obtain ⟨hi, rfl⟩ := List.getElem?_eq_some_iff.1 h
  exact congrArg Workbench.mk (List.set_getElem_self hi)

/-- What a search found, with the workbench after it. -/
def searched (i : Nat) (g : Generator) (p : UInt64 → Bool)
    (answer : Generator.Search → Answer) : Option (Answer × Workbench) :=
  (g.search p).map fun s => (answer s, b.put i s.rest)

/-- The answer of an action on the generator `g` at place `i`. -/
def act (i : Nat) (g : Generator) : Action → Option (Answer × Workbench)
  | .nextValue =>
    match g.next with
    | .ok (v, g') => some (.stepped (.ok v), b.put i g')
    | .error o => some (.stepped (.error o), b)
  | .next =>
    match g.next? with
    | some (v, g') => some (.value (some v), b.put i g')
    | none => some (.value none, b)
  | .look => some (.nothing, b)
  | .describe => some (.text g.describe, b)
  | .sizeHint => some (.bounds 0 none, b)
  | .compare other => b.generators[other]?.map fun h => (.truth (decide (g = h)), b)
  | .take n => let (vs, g') := g.take n; some (.values vs, b.put i g')
  | .collect => b.searched i g (fun _ => false) fun s => .values s.passed
  | .count => b.searched i g (fun _ => false) fun s => .number s.passed.length
  | .last => b.searched i g (fun _ => false) fun s => .value s.passed.getLast?
  | .max => b.searched i g (fun _ => false) fun s => .value s.passed.max?
  | .nth n => let (v, g') := g.nth n; some (.value v, b.put i g')
  | .skipTake skip n => let (vs, g') := g.skipTake skip n; some (.values vs, b.put i g')
  | .stepBy stride n => do
    guard (stride ≠ 0)
    let (vs, g') := g.stepBy stride n
    some (.values vs, b.put i g')
  | .takeWhile p => b.searched i g (fun v => !p v) fun s => .values s.passed
  | .find p => b.searched i g p fun s => .value s.found
  | .findIdx p => b.searched i g p fun s => .place (s.found.map fun _ => s.passed.length)
  | .zip other n => do
    let h ← b.generators[other]?
    guard (other ≠ i)
    let (ps, g', h') := g.zip n h
    some (.pairs ps h', (b.put i g').put other h')

/-- A step: its answer, the place of the generator it was about, and the workbench
    after it. -/
def perform : WorkStep → Option (Answer × Nat × Workbench)
  | .create s => some (.made b.generators.length, b.generators.length, b.add (.ofSeed s))
  | .clone source => b.generators[source]?.map fun g =>
      (.made b.generators.length, b.generators.length, b.add g)
  | .act target a => do
    let g ← b.generators[target]?
    let (answer, b') ← b.act target g a
    some (answer, target, b')

end Workbench

end OpeningTerms
