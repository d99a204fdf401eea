import BillingClient.Json.Value
import BillingClient.Number.Shortest

/-!
Contract: writing JSON values as text, without blanks.

In strings only quotes, backslashes and control characters are escaped. A number
that is no integer is written in a given style.
-/

namespace BillingClient.Json

open BillingClient.Number
open BillingClient.Text

/-- A character of a string as written. -/
def escapeChar (c : Char) : List Char :=
  match c with
  | '"' => ['\\', '"']
  | '\\' => ['\\', '\\']
  | '\x08' => ['\\', 'b']
  | '\t' => ['\\', 't']
  | '\n' => ['\\', 'n']
  | '\x0C' => ['\\', 'f']
  | '\r' => ['\\', 'r']
  | c =>
    if c.toNat < 0x20 then
      ['\\', 'u', '0', '0', lowerHexDigit (c.toNat / 16), lowerHexDigit (c.toNat % 16)]
    else [c]

/-- A string in quotes. -/
def writeString (text : String) : List Char :=
  '"' :: text.toList.flatMap escapeChar ++ ['"']

def writeInteger (value : Int) : List Char :=
  if value < 0 then '-' :: decimalDigits value.natAbs else decimalDigits value.natAbs

mutual

def Value.chars (style : FloatStyle) : Value → List Char
  | .null => "null".toList
  | .bool true => "true".toList
  | .bool false => "false".toList
  | .number (.integer value) => writeInteger value
  | .number (.float value) => (style.write value).toList
  | .string text => writeString text
  | .array elements => '[' :: Value.charsOfElements style elements
  | .object members => '{' :: Value.charsOfMembers style members

/-- The elements of an array and its closing bracket. -/
def Value.charsOfElements (style : FloatStyle) : List Value → List Char
  | [] => [']']
  | [element] => element.chars style ++ [']']
  | element :: rest => element.chars style ++ ',' :: Value.charsOfElements style rest

/-- The members of an object and its closing brace. -/
def Value.charsOfMembers (style : FloatStyle) : List (String × Value) → List Char
  | [] => ['}']
  | [(key, value)] => writeString key ++ ':' :: value.chars style ++ ['}']
  | (key, value) :: rest =>
    writeString key ++ ':' :: value.chars style ++ ',' :: Value.charsOfMembers style rest

end

/-- The text of a value, with numbers in a given style. -/
def Value.textIn (style : FloatStyle) (value : Value) : String :=
  String.ofList (value.chars style)

def Value.text (value : Value) : String :=
  value.textIn .json

end BillingClient.Json
