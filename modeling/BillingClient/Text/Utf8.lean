/-!
Contract: bytes read as text.

`encode` writes a string as UTF-8. `symbols` reads any bytes: each well-formed
sequence is one character, and each maximal run that begins like a sequence but
cannot be one is a single `illFormed` symbol. `decode?` refuses text with such a
run, `decodeLossy` shows each run as U+FFFD.

Reading goes byte by byte through `Pending`, the sequence that is open, so the
whole reader is one structural recursion over the bytes.
-/

namespace BillingClient.Text.Utf8

/-- The UTF-8 bytes of a string. -/
def encode (text : String) : List UInt8 :=
  text.toList.flatMap String.utf8EncodeChar

/-- What a stretch of bytes stands for. -/
inductive Symbol where
  | char (c : Char)
  /-- A maximal run of bytes that is no character. -/
  | illFormed
deriving DecidableEq, Repr

/-- A multi-byte sequence that has begun: the next byte has to lie in
`low ≤ byte ≤ high`, `owed` further continuation bytes come after it, and `value`
holds the bits read so far. -/
structure Pending where
  low : UInt8
  high : UInt8
  owed : Nat
  value : Nat
deriving DecidableEq, Repr

/-- The sequence that a lead byte opens. The ranges leave out overlong forms,
surrogates and values above U+10FFFF. -/
def Pending.ofLead? (byte : UInt8) : Option Pending :=
  let bits := byte.toNat
  if 0xC2 ≤ byte && byte ≤ 0xDF then some ⟨0x80, 0xBF, 0, bits - 0xC0⟩
  else if byte == 0xE0 then some ⟨0xA0, 0xBF, 1, 0⟩
  else if byte == 0xED then some ⟨0x80, 0x9F, 1, 0xD⟩
  else if 0xE1 ≤ byte && byte ≤ 0xEF then some ⟨0x80, 0xBF, 1, bits - 0xE0⟩
  else if byte == 0xF0 then some ⟨0x90, 0xBF, 2, 0⟩
  else if byte == 0xF4 then some ⟨0x80, 0x8F, 2, 4⟩
  else if 0xF1 ≤ byte && byte ≤ 0xF3 then some ⟨0x80, 0xBF, 2, bits - 0xF0⟩
  else none

/-- Whether the byte may come next in the sequence. -/
def Pending.accepts (pending : Pending) (byte : UInt8) : Bool :=
  pending.low ≤ byte && byte ≤ pending.high

/-- The bits read once the byte has been taken. -/
def Pending.extend (pending : Pending) (byte : UInt8) : Nat :=
  pending.value * 64 + (byte.toNat - 0x80)

/-- Reads a byte outside any sequence: the symbol it completes, or the sequence
it opens. -/
def start (byte : UInt8) : Symbol ⊕ Pending :=
  if byte < 0x80 then .inl (.char (Char.ofNat byte.toNat))
  else match Pending.ofLead? byte with
    | some pending => .inr pending
    | none => .inl .illFormed

/-- Reads bytes with the given sequence open. -/
def symbolsFrom : Option Pending → List UInt8 → List Symbol
  | none, [] => []
  | some _, [] => [.illFormed]
  | none, byte :: rest =>
    match start byte with
    | .inl symbol => symbol :: symbolsFrom none rest
    | .inr pending => symbolsFrom (some pending) rest
  | some pending, byte :: rest =>
    if pending.accepts byte then
      match pending.owed with
      | 0 => .char (Char.ofNat (pending.extend byte)) :: symbolsFrom none rest
      | owed + 1 => symbolsFrom (some ⟨0x80, 0xBF, owed, pending.extend byte⟩) rest
    else
      match start byte with
      | .inl symbol => .illFormed :: symbol :: symbolsFrom none rest
      | .inr next => .illFormed :: symbolsFrom (some next) rest

/-- The symbols that the bytes spell. -/
def symbols (bytes : List UInt8) : List Symbol :=
  symbolsFrom none bytes

/-- The character of a well-formed symbol. -/
def Symbol.char? : Symbol → Option Char
  | .char c => some c
  | .illFormed => none

/-- The character shown for a symbol: U+FFFD for a run that is none. -/
def Symbol.shown : Symbol → Char
  | .char c => c
  | .illFormed => '\uFFFD'

/-- The text of the bytes, when all of them are well-formed. -/
def decode? (bytes : List UInt8) : Option String :=
  ((symbols bytes).mapM Symbol.char?).map String.ofList

/-- The text of the bytes, with U+FFFD for each ill-formed run. -/
def decodeLossy (bytes : List UInt8) : String :=
  String.ofList ((symbols bytes).map Symbol.shown)

end BillingClient.Text.Utf8
