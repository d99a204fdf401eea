import BillingClient.Proofs.Json.NumberText

/-!
Contract: strings of JSON texts, written and read.

`StringText.of` is a string as its text writes it: a control character without an escape
of its own becomes a code unit. Main statements: `readString_written`, by which that is
what is read back, and `string?_of`, by which it means the string.
-/

namespace BillingClient.Json

open BillingClient.Text

namespace StringText

/-- The control characters that have an escape of their own. -/
def shortEscapes : List Char :=
  ['\x08', '\t', '\n', '\x0C', '\r']

/-- A character as written. -/
def unitOf (c : Char) : StringUnit :=
  if c.toNat < 0x20 ∧ c ∉ shortEscapes then .codeUnit c.toNat else .char c

/-- A string as written. -/
def of (text : String) : StringText :=
  text.toList.map unitOf

theorem chars?_map_unitOf (chars : List Char) : chars? (chars.map unitOf) = some chars := by
  induction chars with
  | nil => rfl
  | cons c rest inductionHypothesis =>
      rw [List.map_cons, unitOf]
      split
      · rename_i control
        rw [chars?.eq_def]
        have notHigh : ¬ (0xD800 ≤ c.toNat && c.toNat < 0xDC00) = true := by
          simp
          omega
        have notLow : ¬ (0xDC00 ≤ c.toNat && c.toNat < 0xE000) = true := by
          simp
          omega
        simp only [if_neg notHigh, if_neg notLow, inductionHypothesis, Char.ofNat_toNat,
          Option.map_some]
      · simp only [chars?, inductionHypothesis, Option.map_some]

/-- A written string means the string. -/
theorem string?_of (text : String) : string? (of text) = some text := by
  rw [string?, of, chars?_map_unitOf, Option.map_some, String.ofList_toList]

end StringText

open StringText

/-- The characters that are written as they are. -/
theorem readString_char {c : Char} (noControl : 0x20 ≤ c.toNat) (noQuote : c ≠ '"')
    (noBackslash : c ≠ '\\') (rest : Input) :
    readString (.char c :: rest) =
      (readString rest).map fun (units, rest) => (.char c :: units, rest) := by
  have plain : ¬ (decide (c.toNat < 0x20) || decide (c = '\\')) = true := by
    simp [noBackslash]
    omega
  rw [readString.eq_def]
  split
  all_goals
    rename_i starts
    cases starts
  · exact absurd rfl noQuote
  · exact absurd rfl noBackslash
  · exact absurd rfl noBackslash
  · rw [if_neg plain]

/-- A one-letter escape is read as its character. -/
theorem readString_letter {letter c : Char} (notUnit : letter ≠ 'u')
    (means : escapedChar? letter = some c) (rest : Input) :
    readString (.char '\\' :: .char letter :: rest) =
      (readString rest).map fun (units, rest) => (.char c :: units, rest) := by
  rw [readString.eq_def]
  split
  all_goals
    rename_i starts
    cases starts
  · exact absurd rfl notUnit
  · rw [means]
    cases readString rest <;> rfl
  · rename_i notLetter
    exact absurd rfl (notLetter letter rest rfl)

/-- A `\u` escape of two digits is read as their value. -/
theorem readString_codeUnit {high low : Nat} (highSmall : high < 16) (lowSmall : low < 16)
    (rest : Input) :
    readString (written ['\\', 'u', '0', '0', lowerHexDigit high, lowerHexDigit low] rest) =
      (readString rest).map fun (units, rest) => (.codeUnit (high * 16 + low) :: units, rest) := by
  have zero : hexDigit? '0' = some 0 := rfl
  simp only [written_cons, written_nil, readString, zero, hexDigit?_lowerHexDigit highSmall,
    hexDigit?_lowerHexDigit lowSmall, Option.bind_eq_bind, Option.bind_some, Nat.zero_mul,
    Nat.zero_add]
  cases readString rest <;> rfl

/-- What a character is written as is read back as its unit. -/
theorem readString_escapeChar (c : Char) (rest : Input) :
    readString (written (escapeChar c) rest) =
      (readString rest).map fun (units, rest) => (unitOf c :: units, rest) := by
  unfold escapeChar
  split
  case h_8 noQuote noBackslash noBack noTab noLine noForm noReturn =>
      split
      · rename_i control
        have unit : unitOf c = .codeUnit (c.toNat / 16 * 16 + c.toNat % 16) := by
          rw [unitOf, if_pos (by simp_all [shortEscapes]), Nat.div_add_mod']
        rw [readString_codeUnit (by omega) (by omega), unit]
      · rename_i noControl
        rw [unitOf, if_neg (by simp [noControl])]
        exact readString_char (Nat.not_lt.1 noControl) noQuote noBackslash rest
  all_goals exact readString_letter (by decide) rfl rest

theorem readString_flatMap (chars : List Char) (rest : Input) :
    readString (written (chars.flatMap escapeChar ++ ['"']) rest) =
      some (chars.map unitOf, rest) := by
  induction chars with
  | nil => rfl
  | cons c others inductionHypothesis =>
      rw [List.flatMap_cons, List.append_assoc, written_append, readString_escapeChar,
        inductionHypothesis]
      rfl

/-- A written string is read back, after its opening quote. -/
theorem readString_written (text : String) (rest : Input) :
    readString (written (text.toList.flatMap escapeChar ++ ['"']) rest) = some (of text, rest) :=
  readString_flatMap text.toList rest

end BillingClient.Json
