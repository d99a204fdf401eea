import BillingClient.Json.Map
import BillingClient.Json.Value
import BillingClient.Text.Digits

/-!
Contract: the structure of a JSON text, before its parts are given a meaning.

A text may hold what no value can: a number out of range, an escape that names no
character, an object with a key twice. Where such a part is skipped the text is
still good, so the reader keeps it as written, and the meaning is taken here:
`NumberText.number?`, `StringText.string?` and `Node.value?`.
-/

namespace BillingClient.Json

open BillingClient.Number

structure NumberText where
  negative : Bool
  whole : List Nat
  /-- The digits after the point, when there is a point. -/
  fraction : Option (List Nat)
  /-- The sign and digits of the exponent, when there is one. -/
  exponent : Option (Bool × List Nat)
deriving DecidableEq, Repr

/-- One unit of a string as written. -/
inductive StringUnit where
  | char (c : Char)
  /-- A `\u` escape: one UTF-16 code unit. -/
  | codeUnit (unit : Nat)
  /-- Bytes that are no character. -/
  | illFormed
deriving DecidableEq, Repr

abbrev StringText := List StringUnit

/-- The structure of a JSON text. -/
inductive Node where
  | null
  | bool (value : Bool)
  | number (text : NumberText)
  | string (text : StringText)
  | array (elements : List Node)
  | object (members : List (StringText × Node))
deriving Repr, Inhabited

/-! ## Numbers -/

namespace NumberText

/-- Digits gathered into a 64-bit significand. -/
structure Gathered where
  significand : Nat
  /-- Whether a digit did not fit. -/
  full : Bool
  exponent : Int
deriving Repr

/-- Takes one more digit before the point. After the first digit that does not
fit each digit only raises the exponent. -/
def Gathered.addWhole (g : Gathered) (digit : Nat) : Gathered :=
  if g.full then { g with exponent := g.exponent + 1 }
  else
    let next := g.significand * 10 + digit
    if next ≤ Text.maxUnsigned64 then { g with significand := next }
    else { g with full := true, exponent := g.exponent + 1 }

/-- Takes one more digit after the point. From the first digit that does not fit
on, digits are dropped. -/
def Gathered.addFraction (g : Gathered) (digit : Nat) : Gathered :=
  if g.full then g
  else
    let next := g.significand * 10 + digit
    if next ≤ Text.maxUnsigned64 then
      { g with significand := next, exponent := g.exponent - 1 }
    else { g with full := true }

/-- The greatest magnitude of an exponent. -/
def maxExponent : Nat := Nat.pow 2 31 - 1

/-- The number a digit string writes. -/
def digitsValue (digits : List Nat) : Nat :=
  digits.foldl (fun value digit => value * 10 + digit) 0

/-- Scales a number down by a power of ten: by 10^308 while more is left, then by
the rest. -/
def scaleDown (x : Binary64) (exponent : Nat) : Binary64 :=
  if exponent ≤ 308 then x.div (.powerOfTen exponent)
  else if x.isZero then x
  else scaleDown (x.div (.powerOfTen 308)) (exponent - 308)
termination_by exponent
decreasing_by omega

/-- A significand times a power of ten: the significand is rounded to binary64,
then multiplied or divided. There is none when the result is out of range. -/
def scaled? (significand : Nat) (exponent : Int) : Option Binary64 :=
  let x := Binary64.ofNat significand
  match exponent with
  | .ofNat up =>
    if up ≤ 308 then
      let product := x.mul (.powerOfTen up)
      if product.isFinite then some product else none
    else if x.isZero then some x
    else none
  | .negSucc n => some (scaleDown x (n + 1))

/-- The binary64 number of a text. An exponent beyond the limit is out of range
when positive, unless the significand is zero, and gives zero when negative. -/
def magnitude? (text : NumberText) (g : Gathered) : Option Binary64 :=
  match text.exponent with
  | none => scaled? g.significand g.exponent
  | some (negative, digits) =>
    let size := digitsValue digits
    if maxExponent < size then
      if g.significand = 0 || negative then some ⟨false, 0⟩ else none
    else if negative then scaled? g.significand (g.exponent - Int.ofNat size)
    else scaled? g.significand (g.exponent + Int.ofNat size)

/-- The number that a text writes. Without point and exponent it is an integer
when it fits the 64-bit ranges; `-0` is a float. -/
def number? (text : NumberText) : Option Number :=
  let whole := text.whole.foldl Gathered.addWhole ⟨0, false, 0⟩
  let float (g : Gathered) : Option Number :=
    (magnitude? text g).map fun x => .float ⟨text.negative, x.units⟩
  match text.fraction, text.exponent with
  | none, none =>
    if whole.full then float whole
    else if !text.negative then some (.integer whole.significand)
    else if whole.significand = 0 || Nat.pow 2 63 < whole.significand then float whole
    else some (.integer (-Int.ofNat whole.significand))
  | none, some _ => float whole
  | some digits, _ =>
    float (digits.foldl Gathered.addFraction { whole with full := false })

end NumberText

/-! ## Strings -/

/-- The characters of a string as written. Two `\u` escapes in a row may be a
surrogate pair; a surrogate alone is no character. -/
def StringText.chars? : StringText → Option (List Char)
  | [] => some []
  | .char c :: rest => (StringText.chars? rest).map (c :: ·)
  | .illFormed :: _ => none
  | .codeUnit unit :: rest =>
    if 0xD800 ≤ unit && unit < 0xDC00 then
      match rest with
      | .codeUnit low :: rest =>
        if 0xDC00 ≤ low && low < 0xE000 then
          (StringText.chars? rest).map
            (Char.ofNat (0x10000 + (unit - 0xD800) * 0x400 + (low - 0xDC00)) :: ·)
        else none
      | _ => none
    else if 0xDC00 ≤ unit && unit < 0xE000 then none
    else (StringText.chars? rest).map (Char.ofNat unit :: ·)

/-- The string that a text writes. -/
def StringText.string? (text : StringText) : Option String :=
  text.chars?.map String.ofList

/-! ## Free values -/

/-- The greatest depth of arrays and objects that a value may have. -/
def maxDepth : Nat := 127

/-- The value that a node writes, at most `room` arrays and objects deep. Of
several members with one key the last counts. -/
def Node.value? : Nat → Node → Option Value
  | _, .null => some .null
  | _, .bool b => some (.bool b)
  | _, .number text => text.number?.map .number
  | _, .string text => text.string?.map .string
  | 0, .array _ => none
  | 0, .object _ => none
  | room + 1, .array elements => (elements.mapM (Node.value? room)).map .array
  | room + 1, .object members =>
    (members.mapM fun (key, node) => do
      let key ← StringText.string? key
      let value ← Node.value? room node
      some (key, value)).map fun entries => .object (Map.ofEntries entries).entries

end BillingClient.Json
