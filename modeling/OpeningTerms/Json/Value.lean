import OpeningTerms.Decimal.Binary64

/-!
# JSON values

What a JSON text says, as a tree. A text is read from the front, and whoever asks
for a part of it is answered as far as that part goes: so a text that breaks off or
goes wrong has a tree too, which ends in `broken` at the place of the fault.
Likewise a number beyond the range, or a string that holds half of a surrogate
pair, is no fault of the text until its value is asked for.

* `Value.isWhole` says that no part is broken, which is all that is asked of a part
  whose value does not matter.
-/

namespace OpeningTerms.Json

/-- The value of a number. -/
inductive Number where
  /-- An integer of 64 bits, signed or not. -/
  | integer (n : Int)
  /-- Any other number. -/
  | float (x : Decimal.Binary64)
  /-- A number beyond the range. -/
  | overflow

/-- A value of a JSON text. -/
inductive Value where
  | null
  | boolean (b : Bool)
  | number (n : Number)
  /-- A string; nothing if it holds half of a surrogate pair. -/
  | text (s : Option String)
  | array (items : List Value)
  /-- An object; a key is nothing where a string cannot be it. -/
  | object (members : List (Option String × Value))
  /-- The place from which on the text says nothing. -/
  | broken

mutual

/-- Whether no part of the value is broken. -/
def Value.isWhole : Value → Bool
  | .array items => itemsAreWhole items
  | .object members => membersAreWhole members
  | .broken => false
  | .null => true
  | .boolean _ => true
  | .number _ => true
  | .text _ => true

/-- Whether all items are whole. -/
def itemsAreWhole : List Value → Bool
  | [] => true
  | v :: vs => v.isWhole && itemsAreWhole vs

/-- Whether the values of all members are whole. -/
def membersAreWhole : List (Option String × Value) → Bool
  | [] => true
  | (_, v) :: ms => v.isWhole && membersAreWhole ms

end

end OpeningTerms.Json
