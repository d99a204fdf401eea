import BillingClient.Proofs.Text.Digits
import BillingClient.Proofs.Text.Utf8
import BillingClient.Text.Form
import Mathlib.Data.List.Basic

/-!
Contract: percent-encoded text is read back, and holds only kept characters, `%` and digits.

The set of kept characters is a parameter; it must not hold `%`. Main statements:
`Percent.decode_encode`, and for path segments `Form.decode_encodeSegment`.
-/

namespace BillingClient.Text

/-! ## Digits -/

/-- The printed hexadecimal digits are read as their values. -/
theorem hexDigit?_upperHexDigit {value : Nat} (small : value < 16) :
    hexDigit? (upperHexDigit value) = some value := by
  have every : ∀ value < 16, hexDigit? (upperHexDigit value) = some value := by decide
  exact every value small

theorem upperHexDigit_toNat_lt {value : Nat} (small : value < 16) :
    (upperHexDigit value).toNat < 0x80 := by
  have every : ∀ value < 16, (upperHexDigit value).toNat < 0x80 := by decide
  exact every value small

theorem isPlain_upperHexDigit {value : Nat} (small : value < 16) :
    Form.isPlain (upperHexDigit value) = true := by
  have every : ∀ value < 16, Form.isPlain (upperHexDigit value) = true := by decide
  exact every value small

/-- What holds of the first 128 codes holds of every character of ASCII. -/
theorem forall_ascii (holds : Char → Prop) (every : ∀ code < 0x80, holds (Char.ofNat code))
    {c : Char} (ascii : c.toNat < 0x80) : holds c := by
  rw [← Char.ofNat_toNat c]
  exact every c.toNat ascii

/-- A character of ASCII is written as the byte of its code. -/
theorem utf8EncodeChar_of_lt {c : Char} (ascii : c.toNat < 0x80) :
    String.utf8EncodeChar c = [UInt8.ofNat c.toNat] := by
  have code : c.val.toNat ≤ 0x7F := Nat.le_of_lt_succ ascii
  unfold String.utf8EncodeChar
  dsimp only
  rw [if_pos code]
  rfl

/-- The bytes of a character beyond ASCII are beyond ASCII. -/
theorem le_of_mem_utf8EncodeChar {c : Char} (beyond : 0x80 ≤ c.toNat) {byte : UInt8}
    (byteIn : byte ∈ String.utf8EncodeChar c) : 0x80 ≤ byte.toNat := by
  have code : ¬ c.val.toNat ≤ 0x7F := Nat.not_le_of_lt beyond
  unfold String.utf8EncodeChar at byteIn
  dsimp only at byteIn
  rw [if_neg code] at byteIn
  generalize c.val.toNat = code at byteIn
  have large (value : Nat) (bits : value < 0x80) : 0x80 ≤ (UInt8.ofNat (value + 0x80)).toNat := by
    rw [Utf8.toNat_ofNat _ (by omega)]
    omega
  split at byteIn
  · simp only [List.mem_cons, List.not_mem_nil, or_false] at byteIn
    rcases byteIn with rfl | rfl
    · exact large (code / 64 % 0x20 + 0x40) (by omega)
    · exact large _ (by omega)
  · split at byteIn
    · simp only [List.mem_cons, List.not_mem_nil, or_false] at byteIn
      rcases byteIn with rfl | rfl | rfl
      · exact large (code / 4096 % 0x10 + 0x60) (by omega)
      · exact large _ (by omega)
      · exact large _ (by omega)
    · simp only [List.mem_cons, List.not_mem_nil, or_false] at byteIn
      rcases byteIn with rfl | rfl | rfl | rfl
      · exact large (code / 262144 % 0x08 + 0x70) (by omega)
      · exact large _ (by omega)
      · exact large _ (by omega)
      · exact large _ (by omega)

theorem utf8EncodeChar_ne_nil (c : Char) : String.utf8EncodeChar c ≠ [] := by
  unfold String.utf8EncodeChar
  dsimp only
  split
  · exact List.cons_ne_nil _ _
  · split
    · exact List.cons_ne_nil _ _
    · split <;> exact List.cons_ne_nil _ _

namespace Percent

theorem ofNat_toNat_of_lt {c : Char} (ascii : c.toNat < 0x80) :
    Char.ofNat (UInt8.ofNat c.toNat).toNat = c := by
  rw [Utf8.toNat_ofNat c.toNat (by omega)]
  exact Char.ofNat_toNat c

/-- No character is written as nothing. -/
theorem encodeChar_ne_nil (keeps : Char → Bool) (c : Char) : encodeChar keeps c ≠ [] := by
  unfold encodeChar
  split
  · exact List.cons_ne_nil _ _
  · obtain ⟨byte, bytes, written⟩ := List.exists_cons_of_ne_nil (utf8EncodeChar_ne_nil c)
    rw [written]
    exact List.cons_ne_nil _ _

/-- A byte that is no `%` stands for itself. -/
theorem decodeBytes_cons {byte : UInt8} (notPercent : byte ≠ 0x25) (rest : List UInt8) :
    decodeBytes (byte :: rest) = byte :: decodeBytes rest := by
  rw [decodeBytes]
  rintro _ _ _ rfl
  contradiction

/-- A `%` that two digits do not follow stands for itself. -/
theorem decodeBytes_percent {high low : UInt8} (rest : List UInt8)
    (notPair : ∀ h l, hexDigit? (Char.ofNat high.toNat) = some h →
      hexDigit? (Char.ofNat low.toNat) = some l → False) :
    decodeBytes (0x25 :: high :: low :: rest) = 0x25 :: decodeBytes (high :: low :: rest) := by
  rw [decodeBytes]
  split
  · rename_i h l highIs lowIs
    exact (notPair h l highIs lowIs).elim
  · rfl

/-- What is no digit stands for itself at the end of a percent-encoded text. -/
theorem decodeBytes_append_last {last : UInt8}
    (notDigit : hexDigit? (Char.ofNat last.toNat) = none) (front : List UInt8) :
    decodeBytes (front ++ [last]) = decodeBytes front ++ [last] := by
  have alone : decodeBytes [last] = [last] := by
    rw [decodeBytes]
    · rfl
    · rintro _ _ _ _ ⟨⟩
  fun_induction decodeBytes front with
  | case1 high low rest h l highIs lowIs inductionHypothesis =>
      simp only [List.cons_append, decodeBytes, highIs, lowIs, inductionHypothesis]
  | case2 high low rest notPair inductionHypothesis =>
      exact (decodeBytes_percent _ notPair).trans (congrArg _ inductionHypothesis)
  | case3 byte rest notEscape inductionHypothesis =>
      rw [List.cons_append, List.cons_append, ← inductionHypothesis]
      by_cases percent : byte = 0x25
      · subst percent
        -- At most one byte of the text follows the `%`.
        rcases rest with _ | ⟨high, _ | ⟨low, rest⟩⟩
        · rw [List.nil_append, alone, decodeBytes, alone]
          rintro _ _ _ _ ⟨⟩
        · apply decodeBytes_percent
          intro h l _ lowIs
          rw [notDigit] at lowIs
          cases lowIs
        · exact (notEscape high low rest rfl rfl).elim
      · exact decodeBytes_cons percent _
  | case4 => exact alone

/-- An escaped byte is read as that byte. -/
theorem decodeBytes_escape (byte : UInt8) (rest : List UInt8) :
    decodeBytes ((escape byte).flatMap String.utf8EncodeChar ++ rest) =
      byte :: decodeBytes rest := by
  have bound : byte.toNat < 256 := byte.toNat_lt_size
  have highSmall : byte.toNat / 16 < 16 := by omega
  have lowSmall : byte.toNat % 16 < 16 := by omega
  have percent : String.utf8EncodeChar '%' = [0x25] := by decide
  unfold escape
  rw [List.flatMap_cons, List.flatMap_cons, List.flatMap_cons, List.flatMap_nil, percent,
    utf8EncodeChar_of_lt (upperHexDigit_toNat_lt highSmall),
    utf8EncodeChar_of_lt (upperHexDigit_toNat_lt lowSmall)]
  show decodeBytes (0x25 :: UInt8.ofNat _ :: UInt8.ofNat _ :: rest) = _
  rw [decodeBytes, ofNat_toNat_of_lt (upperHexDigit_toNat_lt highSmall),
    ofNat_toNat_of_lt (upperHexDigit_toNat_lt lowSmall), hexDigit?_upperHexDigit highSmall,
    hexDigit?_upperHexDigit lowSmall]
  dsimp only
  rw [Nat.div_add_mod', UInt8.ofNat_toNat]

theorem decodeBytes_escapes (bytes rest : List UInt8) :
    decodeBytes ((bytes.flatMap escape).flatMap String.utf8EncodeChar ++ rest) =
      bytes ++ decodeBytes rest := by
  induction bytes with
  | nil => rfl
  | cons byte bytes inductionHypothesis =>
      rw [List.flatMap_cons, List.flatMap_append, List.append_assoc, decodeBytes_escape,
        inductionHypothesis, List.cons_append]

variable {keeps : Char → Bool}

/-- A character, kept or escaped, is read as its bytes. -/
theorem decodeBytes_encodeChar (notKept : keeps '%' = false) (c : Char) (rest : List UInt8) :
    decodeBytes ((encodeChar keeps c).flatMap String.utf8EncodeChar ++ rest) =
      String.utf8EncodeChar c ++ decodeBytes rest := by
  unfold encodeChar
  by_cases kept : (c.toNat < 0x80 && keeps c) = true
  · obtain ⟨ascii, isKept⟩ := Bool.and_eq_true_iff.1 kept
    have isAscii : c.toNat < 0x80 := of_decide_eq_true ascii
    have notPercent : UInt8.ofNat c.toNat ≠ 0x25 := by
      intro percent
      have code := ofNat_toNat_of_lt isAscii
      rw [percent] at code
      subst code
      rw [show keeps (Char.ofNat (UInt8.toNat 0x25)) = keeps '%' from rfl, notKept] at isKept
      contradiction
    rw [if_pos kept, List.flatMap_singleton, utf8EncodeChar_of_lt isAscii, List.singleton_append,
      List.singleton_append, decodeBytes_cons notPercent]
  · rw [if_neg kept, decodeBytes_escapes]

/-- Encoded text is read as the bytes of the text. -/
theorem decode_encode (notKept : keeps '%' = false) (text : String) :
    decode (encode keeps text) = Utf8.encode text := by
  unfold decode encode Utf8.encode encodeChars
  rw [String.toList_ofList]
  induction text.toList with
  | nil => rfl
  | cons c rest inductionHypothesis =>
      rw [List.flatMap_cons, List.flatMap_append, decodeBytes_encodeChar notKept,
        inductionHypothesis, List.flatMap_cons]

/-- Encoded text holds characters of the text that are kept, `%` and digits. -/
theorem kept_of_mem_encodeChars {chars : List Char} {c : Char}
    (charIn : c ∈ encodeChars keeps chars) :
    c.toNat < 0x80 ∧
      ((c ∈ chars ∧ keeps c = true) ∨ c = '%' ∨ ∃ value < 16, c = upperHexDigit value) := by
  obtain ⟨source, sourceIn, charIn⟩ := List.mem_flatMap.1 charIn
  unfold encodeChar at charIn
  by_cases kept : (source.toNat < 0x80 && keeps source) = true
  · rw [if_pos kept, List.mem_singleton] at charIn
    subst charIn
    obtain ⟨ascii, isKept⟩ := Bool.and_eq_true_iff.1 kept
    exact ⟨of_decide_eq_true ascii, .inl ⟨sourceIn, isKept⟩⟩
  · rw [if_neg kept] at charIn
    obtain ⟨byte, _, charIn⟩ := List.mem_flatMap.1 charIn
    have bound : byte.toNat < 256 := byte.toNat_lt_size
    unfold escape at charIn
    simp only [List.mem_cons, List.not_mem_nil, or_false] at charIn
    rcases charIn with rfl | rfl | rfl
    · exact ⟨by decide, .inr (.inl rfl)⟩
    · exact ⟨upperHexDigit_toNat_lt (by omega), .inr (.inr ⟨_, by omega, rfl⟩)⟩
    · exact ⟨upperHexDigit_toNat_lt (by omega), .inr (.inr ⟨_, by omega, rfl⟩)⟩

/-- Text of kept characters of ASCII is written as it is. -/
theorem encodeChars_eq_self {chars : List Char}
    (kept : ∀ c ∈ chars, c.toNat < 0x80 ∧ keeps c = true) : encodeChars keeps chars = chars := by
  induction chars with
  | nil => rfl
  | cons c rest inductionHypothesis =>
      rw [List.forall_mem_cons] at kept
      obtain ⟨⟨ascii, isKept⟩, others⟩ := kept
      have here : encodeChar keeps c = [c] := by
        unfold encodeChar
        rw [if_pos (by simp [ascii, isKept])]
      show encodeChar keeps c ++ encodeChars keeps rest = _
      rw [here, inductionHypothesis others, List.singleton_append]

end Percent

namespace Form

theorem encodeSegment_eq (text : String) : encodeSegment text = Percent.encode isPlain text :=
  rfl

/-- A path segment is read as the bytes of its text. -/
theorem decode_encodeSegment (text : String) :
    Percent.decode (encodeSegment text) = Utf8.encode text :=
  Percent.decode_encode (by decide) text

/-- A path segment holds plain characters and `%`. -/
theorem isPlain_or_of_mem_encodeSegment {text : String} {c : Char}
    (charIn : c ∈ (encodeSegment text).toList) :
    c.toNat < 0x80 ∧ (isPlain c = true ∨ c = '%') := by
  rw [encodeSegment_eq, Percent.encode, String.toList_ofList] at charIn
  obtain ⟨ascii, ⟨_, kept⟩ | percent | ⟨value, small, rfl⟩⟩ :=
    Percent.kept_of_mem_encodeChars charIn
  · exact ⟨ascii, .inl kept⟩
  · exact ⟨ascii, .inr percent⟩
  · exact ⟨ascii, .inl (isPlain_upperHexDigit small)⟩

/-- A path segment is the encoded text with every `+`, which stands for a blank, as `%20`. -/
theorem toList_encodeSegment (text : String) :
    (encodeSegment text).toList =
      (encode text).toList.flatMap fun c => if c = '+' then ['%', '2', '0'] else [c] := by
  unfold encodeSegment encode
  rw [String.toList_ofList, String.toList_ofList, List.flatMap_assoc]
  apply List.flatMap_congr
  intro c _
  unfold encodeChar
  by_cases blank : c = ' '
  · rw [if_pos blank, blank]
    decide
  · rw [if_neg blank]
    have noPlus : ∀ d ∈ Percent.encodeChar isPlain c,
        (if d = '+' then ['%', '2', '0'] else [d]) = [d] := by
      intro d charIn
      have segment : d ∈ (encodeSegment (String.ofList [c])).toList := by
        rw [encodeSegment, String.toList_ofList, String.toList_ofList, List.flatMap_singleton]
        exact charIn
      obtain ⟨_, plain⟩ := isPlain_or_of_mem_encodeSegment segment
      rw [if_neg]
      rintro rfl
      exact absurd plain (by decide)
    rw [List.flatMap_congr noPlus, List.flatMap_singleton']

/-- Two texts with one path segment are the same. -/
theorem encodeSegment_inj {left right : String}
    (same : encodeSegment left = encodeSegment right) : left = right := by
  have bytes : Utf8.encode left = Utf8.encode right := by
    rw [← decode_encodeSegment, same, decode_encodeSegment]
  have read := Utf8.decode?_encode left
  rw [bytes, Utf8.decode?_encode] at read
  exact (Option.some.inj read).symm

/-- Whether a text has plain characters of ASCII only. -/
def isPlainText (text : String) : Bool :=
  text.toList.all fun c => c.toNat < 0x80 && isPlain c

/-- A plain text is its own path segment. -/
theorem encodeSegment_eq_self {text : String} (plain : isPlainText text = true) :
    encodeSegment text = text := by
  have each : ∀ c ∈ text.toList, c.toNat < 0x80 ∧ isPlain c = true := by
    intro c charIn
    simpa using List.all_eq_true.1 plain c charIn
  rw [encodeSegment_eq, Percent.encode, Percent.encodeChars_eq_self each, String.ofList_toList]

end Form

end BillingClient.Text
