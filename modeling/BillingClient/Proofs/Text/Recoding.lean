import BillingClient.Proofs.Text.Form

/-!
Contract: a form that is percent-encoded once more is read as before.

The bytes of a form are written one by one. Its marks, `%` and the digits are kept, so that the
pieces stay the pieces and an escape stays an escape; what is escaped now stands for itself in
either form. Main statement: `Form.readPairs_encodeChars`.
-/

namespace BillingClient.Text

/-! ## Bytes -/

/-- No byte beyond ASCII is a digit. -/
theorem hexDigit?_of_le {code : Nat} (beyond : 0x80 ≤ code) (small : code < 256) :
    hexDigit? (Char.ofNat code) = none := by
  have every : ∀ code < 256, 0x80 ≤ code → hexDigit? (Char.ofNat code) = none := by
    decide +kernel
  exact every code small beyond

namespace Percent

/-- The bytes of an escaped byte. -/
def escapeBytes (byte : UInt8) : List UInt8 :=
  (escape byte).flatMap String.utf8EncodeChar

/-- A byte: itself when it is a kept character, else escaped. -/
def encodeByte (keeps : Char → Bool) (byte : UInt8) : List UInt8 :=
  if byte.toNat < 0x80 && keeps (Char.ofNat byte.toNat) then [byte] else escapeBytes byte

/-- The digits of a byte, as they are written. -/
theorem exists_escapeBytes_eq (byte : UInt8) : ∃ high < 16, ∃ low < 16,
    escapeBytes byte =
      [0x25, UInt8.ofNat (upperHexDigit high).toNat, UInt8.ofNat (upperHexDigit low).toNat] := by
  have bound : byte.toNat < 256 := byte.toNat_lt_size
  have highSmall : byte.toNat / 16 < 16 := by omega
  have lowSmall : byte.toNat % 16 < 16 := by omega
  refine ⟨_, highSmall, _, lowSmall, ?_⟩
  unfold escapeBytes escape
  rw [List.flatMap_cons, List.flatMap_cons, List.flatMap_singleton,
    utf8EncodeChar_of_lt (upperHexDigit_toNat_lt highSmall),
    utf8EncodeChar_of_lt (upperHexDigit_toNat_lt lowSmall)]
  rfl

variable {keeps : Char → Bool}

/-- Text is written byte by byte. -/
theorem flatMap_encodeChar (c : Char) : (encodeChar keeps c).flatMap String.utf8EncodeChar =
    (String.utf8EncodeChar c).flatMap (encodeByte keeps) := by
  unfold encodeChar
  by_cases ascii : c.toNat < 0x80
  · have value : (UInt8.ofNat c.toNat).toNat = c.toNat := Utf8.toNat_ofNat _ (by omega)
    rw [utf8EncodeChar_of_lt ascii, List.flatMap_singleton, List.flatMap_singleton]
    unfold encodeByte
    rw [value, Char.ofNat_toNat]
    split
    · rw [List.flatMap_singleton, utf8EncodeChar_of_lt ascii]
    · rfl
  · have escaped : ∀ byte ∈ String.utf8EncodeChar c,
        encodeByte keeps byte = escapeBytes byte := by
      intro byte byteIn
      have beyond := le_of_mem_utf8EncodeChar (Nat.not_lt.1 ascii) byteIn
      unfold encodeByte
      rw [if_neg]
      simp [Nat.not_lt.2 beyond]
    rw [if_neg (by simp [ascii]), List.flatMap_congr escaped, List.flatMap_assoc]
    rfl

theorem encode_encodeChars (text : List Char) :
    Utf8.encode (String.ofList (encodeChars keeps text)) =
      (Utf8.encode (String.ofList text)).flatMap (encodeByte keeps) := by
  unfold Utf8.encode encodeChars
  rw [String.toList_ofList, String.toList_ofList, List.flatMap_assoc, List.flatMap_assoc]
  exact List.flatMap_congr fun c _ => flatMap_encodeChar c

theorem encodeByte_ne_nil (byte : UInt8) : encodeByte keeps byte ≠ [] := by
  obtain ⟨_, _, _, _, escaped⟩ := exists_escapeBytes_eq byte
  unfold encodeByte
  rw [escaped]
  split
  · exact List.cons_ne_nil _ _
  · exact List.cons_ne_nil _ _

theorem encodeByte_eq_self {mark : Char} (ascii : mark.toNat < 0x80) (kept : keeps mark = true) :
    encodeByte keeps (UInt8.ofNat mark.toNat) = [UInt8.ofNat mark.toNat] := by
  have value : (UInt8.ofNat mark.toNat).toNat = mark.toNat := Utf8.toNat_ofNat _ (by omega)
  unfold encodeByte
  rw [value, Char.ofNat_toNat, if_pos (by simp [ascii, kept])]

section

variable {mark : UInt8} (notPercent : mark ≠ 0x25)
  (notDigit : hexDigit? (Char.ofNat mark.toNat) = none)

include notPercent notDigit

theorem not_mem_escapeBytes (byte : UInt8) : mark ∉ escapeBytes byte := by
  have noDigit {value : Nat} (small : value < 16) :
      mark ≠ UInt8.ofNat (upperHexDigit value).toNat := by
    rintro rfl
    rw [ofNat_toNat_of_lt (upperHexDigit_toNat_lt small), hexDigit?_upperHexDigit small] at notDigit
    cases notDigit
  obtain ⟨high, highSmall, low, lowSmall, escaped⟩ := exists_escapeBytes_eq byte
  rw [escaped]
  simp only [List.mem_cons, List.not_mem_nil, or_false, not_or]
  exact ⟨notPercent, noDigit highSmall, noDigit lowSmall⟩

/-- A mark that is neither `%` nor a digit is written only for itself. -/
theorem not_mem_encodeByte {byte : UInt8} (other : byte ≠ mark) : mark ∉ encodeByte keeps byte := by
  unfold encodeByte
  split
  · rw [List.mem_singleton]
    exact other.symm
  · exact not_mem_escapeBytes notPercent notDigit byte

end

/-! ## Escapes -/

/-- Whether some bytes are others of which some that stand for themselves have been escaped. -/
inductive Recodes : List UInt8 → List UInt8 → Prop
  | nil : Recodes [] []
  | kept (byte : UInt8) {plain written : List UInt8} (rest : Recodes plain written) :
      Recodes (byte :: plain) (byte :: written)
  | escaped {byte : UInt8} {plain written : List UInt8} (notPercent : byte ≠ 0x25)
      (notDigit : hexDigit? (Char.ofNat byte.toNat) = none) (rest : Recodes plain written) :
      Recodes (byte :: plain) (escapeBytes byte ++ written)

/-- A `%` that no digit follows stands for itself. -/
theorem decodeBytes_percent_of_notDigit {high : UInt8}
    (notDigit : hexDigit? (Char.ofNat high.toNat) = none) (rest : List UInt8) :
    decodeBytes (0x25 :: high :: rest) = 0x25 :: decodeBytes (high :: rest) := by
  cases rest with
  | nil =>
      rw [decodeBytes]
      rintro _ _ _ _ ⟨⟩
  | cons low rest =>
      apply decodeBytes_percent
      intro h l highIs _
      rw [notDigit] at highIs
      cases highIs

/-- Escaped bytes do not begin with a digit. -/
theorem decodeBytes_percent_escapeBytes (byte : UInt8) (rest : List UInt8) :
    decodeBytes (0x25 :: (escapeBytes byte ++ rest)) =
      0x25 :: decodeBytes (escapeBytes byte ++ rest) := by
  obtain ⟨high, _, low, _, escaped⟩ := exists_escapeBytes_eq byte
  rw [escaped]
  exact decodeBytes_percent_of_notDigit (by decide) _

theorem decodeBytes_percent_digit_escapeBytes (high byte : UInt8) (rest : List UInt8) :
    decodeBytes (0x25 :: high :: (escapeBytes byte ++ rest)) =
      0x25 :: decodeBytes (high :: (escapeBytes byte ++ rest)) := by
  obtain ⟨first, _, second, _, escaped⟩ := exists_escapeBytes_eq byte
  have noDigit : hexDigit? (Char.ofNat (0x25 : UInt8).toNat) = none := by decide
  rw [escaped]
  apply decodeBytes_percent
  intro h l _ lowIs
  rw [noDigit] at lowIs
  cases lowIs

theorem decodeBytes_recodes {plain written : List UInt8} (recodes : Recodes plain written) :
    decodeBytes written = decodeBytes plain := by
  -- Along the bytes that are decoded together.
  fun_induction decodeBytes plain generalizing written with
  | case1 high low rest h l lowIs highIs inductionHypothesis =>
      cases recodes with
      | escaped notPercent => exact absurd rfl notPercent
      | kept _ recodes =>
          cases recodes with
          | escaped _ notDigit =>
              rw [highIs] at notDigit
              cases notDigit
          | kept _ recodes =>
              cases recodes with
              | escaped _ notDigit =>
                  rw [lowIs] at notDigit
                  cases notDigit
              | kept _ recodes =>
                  rw [decodeBytes, lowIs, highIs]
                  dsimp only
                  rw [inductionHypothesis recodes]
  | case2 high low rest notPair inductionHypothesis =>
      cases recodes with
      | escaped notPercent => exact absurd rfl notPercent
      | kept _ recodes =>
          rw [← inductionHypothesis recodes]
          cases recodes with
          | escaped => exact decodeBytes_percent_escapeBytes _ _
          | kept _ recodes =>
              cases recodes with
              | escaped => exact decodeBytes_percent_digit_escapeBytes _ _ _
              | kept => exact decodeBytes_percent _ notPair
  | case3 byte rest notEscape inductionHypothesis =>
      cases recodes with
      | escaped _ _ recodes =>
          unfold escapeBytes
          rw [decodeBytes_escape, inductionHypothesis recodes]
      | kept _ recodes =>
          rw [← inductionHypothesis recodes]
          by_cases percent : byte = 0x25
          · subst percent
            -- At most one byte of the text follows the `%`.
            cases recodes with
            | nil =>
                rw [decodeBytes]
                rintro _ _ _ _ ⟨⟩
            | escaped => exact decodeBytes_percent_escapeBytes _ _
            | kept high recodes =>
                cases recodes with
                | nil =>
                    rw [decodeBytes]
                    rintro _ _ _ _ ⟨⟩
                | escaped => exact decodeBytes_percent_digit_escapeBytes _ _ _
                | kept low => exact (notEscape high low _ rfl rfl).elim
          · exact decodeBytes_cons percent _
  | case4 =>
      cases recodes
      rfl

end Percent

namespace Form

/-! ## Pieces -/

section

variable {separator : UInt8} {write : UInt8 → List UInt8} (kept : write separator = [separator])
  (avoids : ∀ byte, byte ≠ separator → separator ∉ write byte)

include kept avoids

/-- Bytes that are written one by one are divided where they were. -/
theorem splitAt_flatMap (bytes : List UInt8) :
    splitAt separator (bytes.flatMap write) = (splitAt separator bytes).map (·.flatMap write) := by
  induction bytes with
  | nil => rfl
  | cons byte bytes inductionHypothesis =>
      rw [List.flatMap_cons, splitAt]
      by_cases isSeparator : byte = separator
      · rw [if_pos isSeparator, isSeparator, kept, List.singleton_append, splitAt, if_pos rfl,
          inductionHypothesis]
        rfl
      · rw [if_neg isSeparator]
        cases pieces : splitAt separator bytes with
        | nil => exact absurd pieces (splitAt_ne_nil separator bytes)
        | cons piece others =>
            rw [pieces, List.map_cons] at inductionHypothesis
            exact splitAt_append_of_not_mem separator (avoids byte isSeparator) inductionHypothesis

theorem divideAt_flatMap (bytes : List UInt8) :
    divideAt separator (bytes.flatMap write) =
      ((divideAt separator bytes).1.flatMap write, (divideAt separator bytes).2.flatMap write) := by
  unfold divideAt
  dsimp only
  induction bytes with
  | nil => rfl
  | cons byte bytes inductionHypothesis =>
      obtain ⟨before, behind⟩ := Prod.mk.inj inductionHypothesis
      by_cases isSeparator : byte = separator
      · subst isSeparator
        rw [List.flatMap_cons, kept, List.singleton_append, List.takeWhile_cons_of_neg (by simp),
          List.takeWhile_cons_of_neg (by simp), List.dropWhile_cons_of_neg (by simp),
          List.dropWhile_cons_of_neg (by simp)]
        rfl
      · have others : ∀ other ∈ write byte, decide (other ≠ separator) = true := by
          intro other otherIn
          rw [decide_eq_true_eq]
          rintro rfl
          exact avoids byte isSeparator otherIn
        rw [List.flatMap_cons, List.takeWhile_append_of_pos others,
          List.dropWhile_append_of_pos others, List.takeWhile_cons_of_pos (by simpa),
          List.dropWhile_cons_of_pos (by simpa), List.flatMap_cons, before, behind]

end

/-! ## Pairs -/

/-- The marks of a form: those between pairs and in them, and those of escapes. -/
def marks : List Char :=
  ['&', '=', '+', '%']

variable {keeps : Char → Bool} (keepsMarks : ∀ mark ∈ marks, keeps mark = true)
  (keepsDigits : ∀ code < 0x80, (hexDigit? (Char.ofNat code)).isSome = true →
    keeps (Char.ofNat code) = true)

include keepsMarks keepsDigits

/-- A name or value that is percent-encoded once more is read as before. -/
theorem decode_flatMap_encodeByte (bytes : List UInt8) :
    decode (bytes.flatMap (Percent.encodeByte keeps)) = decode bytes := by
  have recodes : Percent.Recodes (plusToBlank bytes)
      (plusToBlank (bytes.flatMap (Percent.encodeByte keeps))) := by
    induction bytes with
    | nil => exact .nil
    | cons byte bytes inductionHypothesis =>
        rw [List.flatMap_cons, plusToBlank_append]
        unfold Percent.encodeByte
        split
        · exact .kept _ inductionHypothesis
        · rename_i notKept
          rw [Bool.and_eq_true, decide_eq_true_eq, not_and] at notKept
          have notMark (mark : Char) (isMark : mark ∈ marks) (ascii : mark.toNat < 0x80) :
              byte ≠ UInt8.ofNat mark.toNat := by
            rintro rfl
            rw [Percent.ofNat_toNat_of_lt ascii, Utf8.toNat_ofNat _ (by omega)] at notKept
            exact notKept ascii (keepsMarks mark isMark)
          have notDigit : hexDigit? (Char.ofNat byte.toNat) = none := by
            by_cases ascii : byte.toNat < 0x80
            · rw [← Option.not_isSome_iff_eq_none]
              exact fun isDigit => notKept ascii (keepsDigits _ ascii isDigit)
            · exact hexDigit?_of_le (Nat.not_lt.1 ascii) byte.toNat_lt_size
          have notPlus : byte ≠ 0x2B := notMark '+' (by decide) (by decide)
          have same : plusToBlank (byte :: bytes) = byte :: plusToBlank bytes := by
            unfold plusToBlank
            rw [List.map_cons, if_neg notPlus]
          rw [same, plusToBlank_eq_self (Percent.not_mem_escapeBytes (by decide) (by decide) byte)]
          exact .escaped (notMark '%' (by decide) (by decide)) notDigit inductionHypothesis
  unfold decode
  rw [Percent.decodeBytes_recodes recodes]

/-- A form that is percent-encoded once more is read as the same pairs. -/
theorem readPairs_encodeChars (text : List Char) :
    readPairs (String.ofList (Percent.encodeChars keeps text)) =
      readPairs (String.ofList text) := by
  have ampersand : Percent.encodeByte keeps 0x26 = [0x26] :=
    @Percent.encodeByte_eq_self keeps '&' (by decide) (keepsMarks '&' (by decide))
  have equals : Percent.encodeByte keeps 0x3D = [0x3D] :=
    @Percent.encodeByte_eq_self keeps '=' (by decide) (keepsMarks '=' (by decide))
  have decoded := decode_flatMap_encodeByte keepsMarks keepsDigits
  unfold readPairs
  rw [Percent.encode_encodeChars, splitAt_flatMap ampersand fun byte =>
    Percent.not_mem_encodeByte (by decide) (by decide), List.filter_map, List.map_map]
  have sameEmpty : ((fun piece : List UInt8 => !piece.isEmpty) ∘
      fun piece : List UInt8 => piece.flatMap (Percent.encodeByte keeps)) =
      fun piece : List UInt8 => !piece.isEmpty := by
    funext piece
    cases piece with
    | nil => rfl
    | cons byte piece => simp [Percent.encodeByte_ne_nil]
  rw [sameEmpty]
  refine List.map_congr_left fun piece _ => ?_
  rw [Function.comp_apply, divideAt_flatMap equals fun byte =>
    Percent.not_mem_encodeByte (by decide) (by decide)]
  dsimp only
  rw [decoded, decoded]

end Form

end BillingClient.Text
