import BillingClient.Json.Record

/-!
Contract: objects read member by member.

`Fields` reads the members of one object by their names, one after the other, and stops
at the first that is missing or not of its type, which it names. Of several members
with one name the last counts; `Node.settled` drops the others.
-/

namespace BillingClient.Json

mutual

/-- A node with only the last of several members with one key, at every depth. -/
def Node.settled : Node → Node
  | .array nodes => .array (settledElements nodes)
  | .object members => .object (settledMembers members)
  | node => node

/-- The elements of an array, settled. -/
def settledElements : List Node → List Node
  | [] => []
  | node :: rest => node.settled :: settledElements rest

/-- The members of an object, settled. -/
def settledMembers : List (StringText × Node) → List (StringText × Node)
  | [] => []
  | (key, node) :: rest =>
    let after := settledMembers rest
    if after.any fun member => StringText.string? member.1 = StringText.string? key then after
    else (key, node.settled) :: after

end

/-- The last member with a name. -/
def Node.member? (node : Node) (name : String) : Option Node :=
  match node with
  | .object members => (Members.named members name).getLast?
  | _ => none

/-- Whether a node is an object. -/
def Node.isObject : Node → Bool
  | .object _ => true
  | _ => false

/-- Reading of the members of an object, or the name of the first bad one. -/
abbrev Fields := ReaderT Node (Except String)

namespace Fields

variable {α : Type}

/-- A member that has to be there. -/
def need (codec : Codec α) (name : String) : Fields α := fun node =>
  match (node.member? name).bind (codec.decode .top) with
  | some value => .ok value
  | none => .error name

/-- A member that may be absent, but not `null`. -/
def orElse (codec : Codec α) (absent : α) (name : String) : Fields α := fun node =>
  match node.member? name with
  | none => .ok absent
  | some _ => need codec name node

/-- A member that may be absent or `null`. -/
def opt (codec : Codec α) (name : String) : Fields (Option α) :=
  orElse codec.nullable none name

/-- A member that may be absent or `null`, with a default. -/
def optOr (codec : Codec α) (absent : α) (name : String) : Fields α :=
  (fun value => value.getD absent) <$> opt codec name

/-- The members of an object inside. -/
def within (name : String) (fields : Fields α) : Fields α := fun node =>
  match node.member? name with
  | some inside => fields inside
  | none => .error name

/-- A list of objects, each read member by member. -/
def each (name : String) (fields : Fields α) : Fields (List α) := fun node =>
  match node.member? name with
  | some (.array nodes) => nodes.mapM fields
  | _ => .error name

/-- A list of objects that may be absent. -/
def eachOr (name : String) (fields : Fields α) : Fields (List α) := fun node =>
  match node.member? name with
  | none => .ok []
  | some _ => each name fields node

/-- The codec of an object that is read member by member. -/
def codec (fields : Fields α) (written : α → Value) : Codec α where
  decode _ node := if node.isObject then (fields node).toOption else none
  encode := written

end Fields

/-- The row of a record, read member by member. -/
def Schema.fields : {ρ : Type} → Schema ρ → Fields ρ
  | _, .done => pure ()
  | _, .field first rest => do
    let value ← Fields.orElse first.codec first.absent first.name
    let row ← rest.fields
    pure (value, row)

/-- A record, read member by member. -/
def Record.fields {σ : Type} (record : Record σ) : Fields σ :=
  record.ofRow <$> record.schema.fields

namespace Codec

def node : Codec Node where
  decode _ node := some node
  encode _ := .null

/-- The bytes that pairs of hexadecimal digits write. -/
def hexBytes? : List Char → Option (List UInt8)
  | [] => some []
  | [_] => none
  | high :: low :: rest => do
    let h ← Text.hexDigit? high
    let l ← Text.hexDigit? low
    let bytes ← hexBytes? rest
    some (UInt8.ofNat (h * 16 + l) :: bytes)

def hex : Codec (List UInt8) :=
  string.refine (fun digits => hexBytes? digits.toList) fun bytes =>
    String.ofList (bytes.flatMap fun byte =>
      [Text.lowerHexDigit (byte.toNat / 16), Text.lowerHexDigit (byte.toNat % 16)])

end Codec

mutual

/-- A value with the members of every object in the order of their keys. -/
def Value.ordered : Value → Value
  | .array elements => .array (Value.orderedElements elements)
  | .object members => .object (Map.ofEntries (Value.orderedMembers members)).entries
  | value => value

/-- The elements of an array, ordered. -/
def Value.orderedElements : List Value → List Value
  | [] => []
  | element :: rest => element.ordered :: Value.orderedElements rest

/-- The members of an object, each ordered. -/
def Value.orderedMembers : List (String × Value) → List (String × Value)
  | [] => []
  | (key, value) :: rest => (key, value.ordered) :: Value.orderedMembers rest

end

end BillingClient.Json
