import BillingClient.Json.Node
import BillingClient.Calendar.Instant
import BillingClient.Number.Decimal

/-!
Contract: how the values of a type are read from and written to JSON.

A `Codec` pairs the two directions. Reading depends on the `Place` of the node: how
many arrays and objects may still open there, and whether the members around it
were first collected whole. Codecs for the plain types and for lists, maps and
free values are built here; records have their own module.
-/

namespace BillingClient.Json

open BillingClient.Number
open BillingClient.Calendar

/-- Where a node stands in a text. -/
structure Place where
  /-- How many arrays and objects may still open. -/
  room : Nat
  /-- Whether the members around it were collected before any was read. -/
  collected : Bool
deriving DecidableEq, Repr

/-- The place of a whole text. -/
def Place.top : Place := ⟨maxDepth, false⟩

/-- The place inside an array or object that opens here. -/
def Place.inner? (place : Place) : Option Place :=
  match place.room with
  | 0 => none
  | room + 1 => some { place with room }

/-- Reading and writing of a type. -/
structure Codec (α : Type) where
  decode : Place → Node → Option α
  encode : α → Value

namespace Codec

variable {α β : Type}

/-- A codec of a type whose values are written as those of another. -/
def refine (codec : Codec α) (read : α → Option β) (written : β → α) : Codec β where
  decode place node := (codec.decode place node).bind read
  encode value := codec.encode (written value)

def bool : Codec Bool where
  decode
    | _, .bool b => some b
    | _, _ => none
  encode := .bool

def string : Codec String where
  decode
    | _, .string text => StringText.string? text
    | _, _ => none
  encode := .string

/-- Integers between two bounds. -/
def integer (least greatest : Int) : Codec Int where
  decode
    | _, .number text =>
      match text.number? with
      | some (.integer value) => if least ≤ value ∧ value ≤ greatest then some value else none
      | _ => none
    | _, _ => none
  encode value := .number (.integer value)

/-- Signed 32-bit integers. -/
def int32 : Codec Int :=
  integer (-0x80000000) 0x7FFFFFFF

/-- Natural numbers up to a bound. -/
def natural (greatest : Nat) : Codec Nat :=
  (integer 0 greatest).refine (fun value => some value.toNat) Int.ofNat

/-- Unsigned 64-bit integers. -/
def unsigned64 : Codec Nat :=
  natural Text.maxUnsigned64

/-- Amounts: written as binary64; read from a number, or from a string that holds
a plain or scientific text. -/
def decimal : Codec Decimal where
  decode
    | _, .number text =>
      match text.number? with
      | some (.integer value) => Decimal.ofInt? value
      | some (.float value) => Decimal.ofBinary64? value
      | none => none
    | _, .string text => (StringText.string? text).bind Decimal.ofText?
    | _, _ => none
  encode value := .number (.float value.toBinary64)

def date : Codec Date :=
  string.refine Date.ofText? Date.text

def instant : Codec Instant :=
  string.refine Instant.ofText? (Instant.text .exact)

def free : Codec Value where
  decode place node := node.value? place.room
  encode := id

/-- Values that may be absent, as `null`. -/
def nullable (codec : Codec α) : Codec (Option α) where
  decode
    | _, .null => some none
    | place, node => (codec.decode place node).map some
  encode
    | none => .null
    | some value => codec.encode value

def list (codec : Codec α) : Codec (List α) where
  decode
    | place, .array nodes => place.inner?.bind fun place => nodes.mapM (codec.decode place)
    | _, _ => none
  encode values := .array (values.map codec.encode)

/-- Pairs of strings as arrays of two. -/
def pair : Codec (String × String) where
  decode place node := match string.list.decode place node with
    | some [first, second] => some (first, second)
    | _ => none
  encode value := .array [.string value.1, .string value.2]

/-- Maps as objects; of several members with one key the last counts. -/
def map (codec : Codec α) : Codec (Map α) where
  decode
    | place, .object members => place.inner?.bind fun place =>
      (members.mapM fun (key, node) => do
        let key ← StringText.string? key
        let value ← codec.decode place node
        some (key, value)).map Map.ofEntries
    | _, _ => none
  encode map := .object (map.entries.map fun (key, value) => (key, codec.encode value))

/-- Names of a fixed set, as strings. A name may also be written as an object with
the name as only key and `null` as value, or `{}` where the members around it were
collected. -/
def name (parse? : String → Option α) (written : α → String) : Codec α where
  decode
    | _, .string text => (StringText.string? text).bind parse?
    | place, .object [(key, node)] =>
      if place.room = 0 then none
      else
        match node, place.collected with
        | .null, _ => (StringText.string? key).bind parse?
        | .object [], true => (StringText.string? key).bind parse?
        | _, _ => none
    | _, _ => none
  encode value := .string (written value)

end Codec

end BillingClient.Json
