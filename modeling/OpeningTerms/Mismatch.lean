import OpeningTerms.Decimal.Layout
import OpeningTerms.Text.Quoted
import OpeningTerms.Toml.Document

/-!
# Mismatches

The value of a setting may be well written and still not what the setting wants: of
another type, out of range, or missing. A `Mismatch` says what was found and what
was wanted there.
-/

namespace OpeningTerms

/-- What a setting wants. -/
inductive Wanted where
  /-- A natural number of 64 bits. -/
  | amount
  | text
  /-- The section on the sequence. -/
  | sequenceSection
  /-- The section on the log. -/
  | logSection
  | seed
  /-- Any value that can be kept. -/
  | anything

/-- The name of what is wanted. -/
def Wanted.name : Wanted → String
  | .amount => "u64"
  | .text => "a string"
  | .sequenceSection => "struct SequenceConfig"
  | .logSection => "struct LogConfig"
  | .seed => "struct Seed"
  | .anything => "any value"

/-- What was found instead. -/
inductive Found where
  | null
  | boolean (b : Bool)
  /-- An integer of 64 bits. -/
  | integer (n : Int)
  /-- An integer that needs more. -/
  | wideInteger (n : Int)
  /-- A float, by its text. -/
  | float (text : String)
  | text (s : String)
  | sequence
  | map

/-- An integer as its digits, with its sign. -/
def integerText (n : Int) : String :=
  (if n < 0 then "-" else "") ++ n.natAbs.repr

/-- The name of the integers that hold a wide one. -/
def wideName (n : Int) : String :=
  if n ≤ 0x7fffffffffffffffffffffffffffffff then "i128" else "u128"

/-- How a found value is described. -/
def Found.describe : Found → String
  | .null => "null"
  | .boolean b => "boolean `" ++ (if b then "true" else "false") ++ "`"
  | .integer n => "integer `" ++ integerText n ++ "`"
  | .wideInteger n => "integer `" ++ integerText n ++ "` as " ++ wideName n
  | .float t => "floating point `" ++ t ++ "`"
  | .text s => "string " ++ Text.quote s
  | .sequence => "sequence"
  | .map => "map"

/-- Why a well-written value is not accepted. -/
inductive Mismatch where
  | wrongType (found : Found) (wanted : Wanted)
  /-- An integer out of the range that is wanted. -/
  | wrongValue (n : Int) (wanted : Wanted)
  /-- An empty array in place of the section on the log. -/
  | missingFilter
  /-- A key that occurs twice. -/
  | duplicate (key : String)
  /-- A number beyond every range. -/
  | overflow (kind : Toml.NumberKind)

/-- The sentence that reports a mismatch. -/
def Mismatch.message : Mismatch → String
  | .wrongType found wanted => "invalid type: " ++ found.describe ++ ", expected " ++ wanted.name
  | .wrongValue n wanted =>
    "invalid value: integer `" ++ integerText n ++ "`, expected " ++ wanted.name
  | .missingFilter => "invalid length 0, expected struct LogConfig with 1 element"
  | .duplicate key => "duplicate field `" ++ key ++ "`"
  | .overflow .integer => "integer number overflowed"
  | .overflow .float => "floating-point number overflowed"

end OpeningTerms
