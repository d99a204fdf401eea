import BillingClient.Json.Node
import BillingClient.Text.Utf8

/-!
Contract: reading the structure of a JSON text.

`read` takes the bytes of a text, one JSON value with blanks around it, and gives
its structure; `none` for anything else. Each reader takes the symbols that are
left and gives what it read with the rest. The readers of nested values recurse on
a bound above twice the length of the text: each level of nesting costs at most two
steps and at least two symbols, so the bound is never what ends a reading.
-/

namespace BillingClient.Json

open BillingClient.Text
open BillingClient.Text.Utf8 (Symbol)

/-- The symbols that are left to read. -/
abbrev Input := List Symbol

/-- JSON's blanks: space, tab, line feed, carriage return. -/
def isJsonBlank (c : Char) : Bool :=
  c == ' ' || c == '\t' || c == '\n' || c == '\r'

/-- Skips blanks. -/
def skipBlanks : Input → Input
  | .char c :: rest => if isJsonBlank c then skipBlanks rest else .char c :: rest
  | input => input

def readWord : List Char → Input → Option Input
  | [], input => some input
  | c :: word, .char d :: rest => if c = d then readWord word rest else none
  | _ :: _, _ => none

/-! ## Strings -/

/-- The character of a one-letter escape. -/
def escapedChar? (letter : Char) : Option Char :=
  match letter with
  | '"' => some '"'
  | '\\' => some '\\'
  | '/' => some '/'
  | 'b' => some '\x08'
  | 'f' => some '\x0C'
  | 'n' => some '\n'
  | 'r' => some '\r'
  | 't' => some '\t'
  | _ => none

/-- Reads a string after its opening quote, to its closing one. -/
def readString : Input → Option (StringText × Input)
  | .char '"' :: rest => some ([], rest)
  | .char '\\' :: .char 'u' :: .char a :: .char b :: .char c :: .char d :: rest => do
    let w ← hexDigit? a
    let x ← hexDigit? b
    let y ← hexDigit? c
    let z ← hexDigit? d
    let (units, rest) ← readString rest
    some (.codeUnit (w * 4096 + x * 256 + y * 16 + z) :: units, rest)
  | .char '\\' :: .char letter :: rest => do
    let c ← escapedChar? letter
    let (units, rest) ← readString rest
    some (.char c :: units, rest)
  | .char c :: rest =>
    if c.toNat < 0x20 || c = '\\' then none
    else (readString rest).map fun (units, rest) => (.char c :: units, rest)
  | .illFormed :: rest =>
    (readString rest).map fun (units, rest) => (.illFormed :: units, rest)
  | [] => none

/-! ## Numbers -/

/-- Reads as many digits as there are. -/
def readDigits : Input → List Nat × Input
  | .char c :: rest =>
    match decimalDigit? c with
    | some digit =>
      let (digits, rest) := readDigits rest
      (digit :: digits, rest)
    | none => ([], .char c :: rest)
  | input => ([], input)

/-- Reads at least one digit. -/
def readSomeDigits (input : Input) : Option (List Nat × Input) :=
  let (digits, rest) := readDigits input
  if digits.isEmpty then none else some (digits, rest)

/-- Reads the point and the digits after it, if a point comes next. -/
def readFraction (input : Input) : Option (Option (List Nat) × Input) :=
  match input with
  | .char '.' :: rest => (readSomeDigits rest).map fun (digits, rest) => (some digits, rest)
  | _ => some (none, input)

/-- Reads an exponent, if its mark comes next. -/
def readExponent (input : Input) : Option (Option (Bool × List Nat) × Input) :=
  let readSigned (rest : Input) : Option (Option (Bool × List Nat) × Input) :=
    match rest with
    | .char '+' :: rest => (readSomeDigits rest).map fun (ds, rest) => (some (false, ds), rest)
    | .char '-' :: rest => (readSomeDigits rest).map fun (ds, rest) => (some (true, ds), rest)
    | rest => (readSomeDigits rest).map fun (ds, rest) => (some (false, ds), rest)
  match input with
  | .char 'e' :: rest => readSigned rest
  | .char 'E' :: rest => readSigned rest
  | _ => some (none, input)

/-- Reads a number after its sign. A leading zero stands alone before the point. -/
def readUnsigned (negative : Bool) (input : Input) : Option (NumberText × Input) := do
  let (whole, rest) ← readSomeDigits input
  if whole.head? = some 0 && 1 < whole.length then none
  else
    let (fraction, rest) ← readFraction rest
    let (exponent, rest) ← readExponent rest
    some (⟨negative, whole, fraction, exponent⟩, rest)

/-! ## Values -/

mutual

/-- Reads a value; blanks may stand before it. -/
def readNode : Nat → Input → Option (Node × Input)
  | 0, _ => none
  | bound + 1, input =>
    match skipBlanks input with
    | .char 'n' :: rest => (readWord ['u', 'l', 'l'] rest).map (.null, ·)
    | .char 't' :: rest => (readWord ['r', 'u', 'e'] rest).map (.bool true, ·)
    | .char 'f' :: rest => (readWord ['a', 'l', 's', 'e'] rest).map (.bool false, ·)
    | .char '"' :: rest => (readString rest).map fun (text, rest) => (.string text, rest)
    | .char '-' :: rest =>
      (readUnsigned true rest).map fun (text, rest) => (.number text, rest)
    | .char '[' :: rest =>
      match skipBlanks rest with
      | .char ']' :: rest => some (.array [], rest)
      | rest => (readElements bound rest).map fun (nodes, rest) => (.array nodes, rest)
    | .char '{' :: rest =>
      match skipBlanks rest with
      | .char '}' :: rest => some (.object [], rest)
      | rest => (readMembers bound rest).map fun (members, rest) => (.object members, rest)
    | rest => (readUnsigned false rest).map fun (text, rest) => (.number text, rest)

/-- Reads the elements of an array, to its closing bracket. -/
def readElements : Nat → Input → Option (List Node × Input)
  | 0, _ => none
  | bound + 1, input => do
    let (node, rest) ← readNode bound input
    match skipBlanks rest with
    | .char ',' :: rest =>
      let (nodes, rest) ← readElements bound rest
      some (node :: nodes, rest)
    | .char ']' :: rest => some ([node], rest)
    | _ => none

/-- Reads the members of an object, to its closing brace. -/
def readMembers : Nat → Input → Option (List (StringText × Node) × Input)
  | 0, _ => none
  | bound + 1, input =>
    match skipBlanks input with
    | .char '"' :: rest => do
      let (key, rest) ← readString rest
      match skipBlanks rest with
      | .char ':' :: rest =>
        let (node, rest) ← readNode bound rest
        match skipBlanks rest with
        | .char ',' :: rest =>
          let (members, rest) ← readMembers bound rest
          some ((key, node) :: members, rest)
        | .char '}' :: rest => some ([(key, node)], rest)
        | _ => none
      | _ => none
    | _ => none

end

/-- The structure of the one value that the symbols write. -/
def readSymbols (input : Input) : Option Node :=
  match readNode (2 * input.length + 2) input with
  | some (node, rest) => if (skipBlanks rest).isEmpty then some node else none
  | none => none

/-- The structure of a JSON text. -/
def read (bytes : List UInt8) : Option Node :=
  readSymbols (Utf8.symbols bytes)

end BillingClient.Json
