/-!
Contract: Punycode (RFC 3492), which writes any text with ASCII characters.

The ASCII characters come first; then, in rising order of code point, each other
character is a number of variable length that says how far to go through the places
where it could be inserted. The bias adapts to the numbers written so far.
-/

namespace BillingClient.Url.Idna.Punycode

def base : Nat := 36
def thresholdMin : Nat := 1
def thresholdMax : Nat := 26
def skew : Nat := 38
def damping : Nat := 700
def initialBias : Nat := 72
def initialCode : Nat := 128

/-- Divides a distance until it is small, counting the divisions. -/
def reduceDelta (delta count : Nat) : Nat × Nat :=
  if (base - thresholdMin) * thresholdMax / 2 < delta then
    reduceDelta (delta / (base - thresholdMin)) (count + 1)
  else (delta, count)
termination_by delta
decreasing_by
  simp only [base, thresholdMin, thresholdMax] at *
  omega

/-- The bias after a distance among some number of places. -/
def adapt (delta places : Nat) (isFirst : Bool) : Nat :=
  let damped := if isFirst then delta / damping else delta / 2
  let (reduced, count) := reduceDelta (damped + damped / places) 0
  base * count + (base - thresholdMin + 1) * reduced / (reduced + skew)

/-- The threshold at a digit position. -/
def threshold (position bias : Nat) : Nat :=
  if position ≤ bias + thresholdMin then thresholdMin
  else if bias + thresholdMax ≤ position then thresholdMax
  else position - bias

/-- The digit of a value below 36. -/
def digit (value : Nat) : Char :=
  if value < 26 then Char.ofNat (97 + value) else Char.ofNat (22 + value)

def digitValue? (c : Char) : Option Nat :=
  if 'a' ≤ c && c ≤ 'z' then some (c.toNat - 97)
  else if 'A' ≤ c && c ≤ 'Z' then some (c.toNat - 65)
  else if '0' ≤ c && c ≤ '9' then some (c.toNat - 22)
  else none

/-- The digits of a distance. The fuel is the distance itself, which each digit
shortens. -/
def digits (bias : Nat) : Nat → Nat → Nat → List Char
  | 0, _, distance => [digit distance]
  | fuel + 1, position, distance =>
    let limit := threshold position bias
    if distance < limit then [digit distance]
    else digit (limit + (distance - limit) % (base - limit)) ::
      digits bias fuel (position + base) ((distance - limit) / (base - limit))

structure Progress where
  code : Nat
  delta : Nat
  bias : Nat
  handled : Nat
  output : List Char

/-- Passes over one character of the text while a code point is inserted. -/
def passChar (basicCount target : Nat) (state : Progress) (c : Char) : Progress :=
  if c.toNat < target then { state with delta := state.delta + 1 }
  else if c.toNat = target then
    { state with
      delta := 0
      bias := adapt state.delta (state.handled + 1) (state.handled == basicCount)
      handled := state.handled + 1
      output := state.output ++ digits state.bias state.delta base state.delta }
  else state

/-- Inserts every character with one code point. -/
def insertCode (basicCount : Nat) (text : List Char) (state : Progress) (target : Nat) : Progress :=
  let raised := { state with delta := state.delta + (target - state.code) * (state.handled + 1) }
  let passed := text.foldl (passChar basicCount target) raised
  { passed with delta := passed.delta + 1, code := target + 1 }

/-- The code points beyond ASCII of a text, rising, each once. -/
def extendedCodes (text : List Char) : List Nat :=
  let codes := (text.map Char.toNat).filter (initialCode ≤ ·)
  (codes.mergeSort (· ≤ ·)).eraseDups

def encode (text : List Char) : List Char :=
  let basic := text.filter (·.toNat < initialCode)
  let start : Progress := ⟨initialCode, 0, initialBias, basic.length,
    if basic.isEmpty then [] else basic ++ ['-']⟩
  ((extendedCodes text).foldl (insertCode basic.length text) start).output

/-- Reads the digits of one distance: the distance and the digits that are left. -/
def readDistance (bias position weight sum : Nat) : List Char → Option (Nat × List Char)
  | [] => none
  | c :: rest => (digitValue? c).bind fun value =>
    let limit := threshold position bias
    let sum := sum + value * weight
    if value < limit then some (sum, rest)
    else readDistance bias (position + base) (weight * (base - limit)) sum rest

/-- Puts a character at an index of a text. -/
def insertAt (index : Nat) (c : Char) (text : List Char) : List Char :=
  text.take index ++ c :: text.drop index

/-- Inserts the characters that the digits write. The fuel is the number of digits. -/
def decodeFrom : Nat → Nat → Nat → Nat → List Char → List Char → Option (List Char)
  | 0, _, _, _, text, _ => some text
  | fuel + 1, code, bias, index, text, input =>
    if input.isEmpty then some text
    else (readDistance bias base 1 0 input).bind fun (distance, rest) =>
      let places := text.length + 1
      let next := index + distance
      let target := code + next / places
      if h : target.isValidChar then
        decodeFrom fuel target (adapt distance places (index == 0))
          (next % places + 1) (insertAt (next % places) (Char.ofNatAux target h) text) rest
      else none

/-- The text that a Punycode writes. -/
def decode? (input : List Char) : Option (List Char) :=
  let (basic, extended) :=
    match input.reverse.dropWhile (· ≠ '-') with
    | [] => ([], input)
    | _ :: before => (before.reverse, input.drop (before.length + 1))
  if basic.all (·.toNat < initialCode) then
    decodeFrom extended.length initialCode initialBias 0 basic extended
  else none

end BillingClient.Url.Idna.Punycode
