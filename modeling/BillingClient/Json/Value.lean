import BillingClient.Number.Binary64

/-!
Contract: JSON values.

An object keeps its members in the order they are written. A free value, one
whose shape the library does not know, has the sorted members of a `Map`.
-/

namespace BillingClient.Json

open BillingClient.Number

/-- A number: an integer of the signed or unsigned 64-bit range, or else the
nearest binary64. -/
inductive Number where
  | integer (value : Int)
  | float (value : Binary64)
deriving DecidableEq, Repr

/-- Equality of numbers: `1` and `1.0` differ, the two zeros are equal. -/
def Number.same : Number → Number → Bool
  | .integer x, .integer y => x == y
  | .float x, .float y => x == y
  | _, _ => false

instance : BEq Number := ⟨Number.same⟩

inductive Value where
  | null
  | bool (value : Bool)
  | number (value : Number)
  | string (value : String)
  | array (elements : List Value)
  | object (members : List (String × Value))
deriving Repr, Inhabited

mutual

/-- Equality of values, member by member in their order. -/
def Value.same : Value → Value → Bool
  | .null, .null => true
  | .bool x, .bool y => x == y
  | .number x, .number y => x == y
  | .string x, .string y => x == y
  | .array xs, .array ys => Value.sameElements xs ys
  | .object xs, .object ys => Value.sameMembers xs ys
  | _, _ => false

def Value.sameElements : List Value → List Value → Bool
  | [], [] => true
  | x :: xs, y :: ys => x.same y && Value.sameElements xs ys
  | _, _ => false

def Value.sameMembers : List (String × Value) → List (String × Value) → Bool
  | [], [] => true
  | (k, x) :: xs, (l, y) :: ys => k == l && x.same y && Value.sameMembers xs ys
  | _, _ => false

end

instance : BEq Value := ⟨Value.same⟩

end BillingClient.Json
