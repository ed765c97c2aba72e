import OpeningTerms.Toml.Document

/-!
# Tables under construction

A document says piece by piece what its tables hold, and a piece may only add to
a table in the manner in which the table was made:

* a table with a *header* of its own gets its entries below that header, and has
  only one header; until then, headers of tables inside it merely *imply* it;
* a table that *dotted keys* have made, or have gone through while it was only implied,
  gets its entries by dotted keys only, though headers may put further tables into it;
* a table or array that is written as a value is complete;
* a header between double brackets adds a table to an array of such tables, and
  whoever names the array afterwards means the last of them.

Every operation has no result where a piece breaks these rules.
-/

namespace OpeningTerms.Toml

/-- How a table under construction has been made. -/
inductive Origin where
  /-- By a header of its own; the document itself and the tables of an array too. -/
  | header
  /-- By the header of a table inside it. -/
  | implied
  /-- By dotted keys, which may have found it implied. -/
  | dotted
deriving DecidableEq

/-- What a key stands for while the document is read. -/
inductive Node where
  /-- A value, complete. -/
  | closed (value : Document)
  | table (origin : Origin) (entries : List (String × Node))
  /-- An array of tables: those before, and the last. -/
  | tables (before : List (List (String × Node))) (last : List (String × Node))

/-- The entries of a table under construction. -/
abbrev Entries := List (String × Node)

/-- A change of what the key `k` stands for; `f` is given nothing if the key is new. -/
def alter (k : String) (f : Option Node → Option Node) : Entries → Option Entries
  | [] => (f none).map fun n => [(k, n)]
  | (k', n) :: es =>
    if k' = k then (f (some n)).map fun n' => (k', n') :: es
    else (alter k f es).map ((k', n) :: ·)

/-- A change of the table at the end of a path, which is made where it is missing.
    The path belongs to dotted keys or else to a header. Dotted keys take possession of
    the tables on their way, a header leaves them as they are. -/
def within (dotted : Bool) (f : Origin → Entries → Option Entries) :
    List String → Origin → Entries → Option Entries
  | [], origin, es => f origin es
  | k :: path, _, es =>
    es |> alter k fun
      | none =>
        let origin := if dotted then Origin.dotted else .implied
        (within dotted f path origin []).map (.table origin)
      | some (.table origin inner) =>
        if dotted && origin = .header then none
        else
          let origin := if dotted then Origin.dotted else origin
          (within dotted f path origin inner).map (.table origin)
      | some (.tables before last) => (within dotted f path .header last).map (.tables before)
      | some (.closed _) => none

/-- Takes the last key off a path. -/
def splitPath (path : List String) : Option (List String × String) :=
  path.getLast?.map fun k => (path.dropLast, k)

/-- Gives a key its value. Behind a dotted path the table must be one for dotted keys,
    which the tables of an array are not. -/
def assign (path : List String) (value : Document) (origin : Origin) (es : Entries) :
    Option Entries := do
  let (path, k) ← splitPath path
  let insert (origin : Origin) (es : Entries) : Option Entries :=
    if decide (origin = .dotted) = path.isEmpty then none
    else alter k (fun old => if old.isSome then none else some (.closed value)) es
  within true insert path origin es

/-- Opens a table by its header. -/
def openTable (path : List String) (es : Entries) : Option Entries := do
  let (path, k) ← splitPath path
  let mark : Option Node → Option Node
    | none => some (.table .header [])
    | some (.table .implied inner) => some (.table .header inner)
    | some _ => none
  within false (fun _ => alter k mark) path .header es

/-- Opens one more table of an array by its header. -/
def openItem (path : List String) (es : Entries) : Option Entries := do
  let (path, k) ← splitPath path
  let extend : Option Node → Option Node
    | none => some (.tables [] [])
    | some (.tables before last) => some (.tables (before ++ [last]) [])
    | some _ => none
  within false (fun _ => alter k extend) path .header es

mutual

/-- The value of a node when the document is complete. -/
def Node.toDocument : Node → Document
  | .closed value => value
  | .table _ es => .table (documentEntries es)
  | .tables before last => .array (documentItems before ++ [.table (documentEntries last)])

/-- The values of the entries of a table. -/
def documentEntries : List (String × Node) → List (String × Document)
  | [] => []
  | (k, n) :: es => (k, n.toDocument) :: documentEntries es

/-- The values of the tables of an array. -/
def documentItems : List (List (String × Node)) → List Document
  | [] => []
  | es :: rest => .table (documentEntries es) :: documentItems rest

end

/-- A table written between braces: its keys, dotted or not, with their values. -/
def inlineTable (members : List (List String × Document)) : Option Document := do
  let es ← members.foldlM (fun es (path, value) => assign path value .header es) []
  some (.table (documentEntries es))

end OpeningTerms.Toml
