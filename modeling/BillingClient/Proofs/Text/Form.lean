import BillingClient.Proofs.Text.Percent

/-!
Contract: a form is read as the pairs that it was written for.

A name or value is read back byte by byte, and holds neither `&` nor `=`, so the pieces between
these are the names and values that were written. Main statement: `readPairs_writePairs`.
-/

namespace BillingClient.Text

namespace Utf8

/-- Well-formed bytes need no replacement. -/
theorem decodeLossy_encode (text : String) : decodeLossy (encode text) = text := by
  unfold decodeLossy
  rw [symbols_encode, List.map_map]
  exact (congrArg String.ofList (List.map_id text.toList)).trans String.ofList_toList

theorem encode_append (left right : String) :
    encode (left ++ right) = encode left ++ encode right := by
  unfold encode
  rw [String.toList_append, List.flatMap_append]

end Utf8

/-- The byte of a character of ASCII stands for no other character. -/
theorem mem_of_ofNat_mem_flatMap {mark : Char} {text : List Char} (markAscii : mark.toNat < 0x80)
    (byteIn : UInt8.ofNat mark.toNat ∈ text.flatMap String.utf8EncodeChar) : mark ∈ text := by
  obtain ⟨c, charIn, byteIn⟩ := List.mem_flatMap.1 byteIn
  have same := Percent.ofNat_toNat_of_lt markAscii
  by_cases ascii : c.toNat < 0x80
  · rw [utf8EncodeChar_of_lt ascii, List.mem_singleton] at byteIn
    rw [byteIn, Percent.ofNat_toNat_of_lt ascii] at same
    rw [← same]
    exact charIn
  · have beyond := le_of_mem_utf8EncodeChar (Nat.not_lt.1 ascii) byteIn
    rw [Utf8.toNat_ofNat _ (Nat.lt_trans markAscii (by decide))] at beyond
    exact absurd markAscii (Nat.not_lt.2 beyond)

namespace Form

/-! ## Division -/

section

variable {α : Type} [DecidableEq α] (separator : α)

theorem splitAt_ne_nil (text : List α) : splitAt separator text ≠ [] := by
  cases text with
  | nil => simp [splitAt]
  | cons x rest =>
      unfold splitAt
      split
      · simp
      · split <;> simp

theorem splitAt_append_cons (left right : List α) :
    splitAt separator (left ++ separator :: right) =
      splitAt separator left ++ splitAt separator right := by
  induction left with
  | nil => simp [splitAt]
  | cons x left inductionHypothesis =>
      rw [List.cons_append, splitAt, splitAt, inductionHypothesis]
      by_cases isSeparator : x = separator
      · rw [if_pos isSeparator, if_pos isSeparator, List.cons_append]
      · rw [if_neg isSeparator, if_neg isSeparator]
        cases pieces : splitAt separator left with
        | nil => exact absurd pieces (splitAt_ne_nil separator left)
        | cons piece pieces => rfl

/-- A text without separators goes before the first piece of what follows. -/
theorem splitAt_append_of_not_mem {left right piece : List α} {pieces : List (List α)}
    (absent : separator ∉ left) (others : splitAt separator right = piece :: pieces) :
    splitAt separator (left ++ right) = (left ++ piece) :: pieces := by
  induction left with
  | nil => exact others
  | cons x left inductionHypothesis =>
      rw [List.mem_cons, not_or] at absent
      rw [List.cons_append, splitAt, if_neg (fun same => absent.1 same.symm),
        inductionHypothesis absent.2]
      rfl

theorem splitAt_of_not_mem {text : List α} (absent : separator ∉ text) :
    splitAt separator text = [text] := by
  rw [← List.append_nil text, splitAt_append_of_not_mem separator absent rfl]

theorem not_mem_of_mem_splitAt {text piece : List α} (pieceIn : piece ∈ splitAt separator text) :
    separator ∉ piece := by
  induction text generalizing piece with
  | nil =>
      obtain rfl := List.mem_singleton.1 pieceIn
      exact List.not_mem_nil
  | cons x rest inductionHypothesis =>
      rw [splitAt] at pieceIn
      by_cases isSeparator : x = separator
      · rw [if_pos isSeparator] at pieceIn
        rcases List.mem_cons.1 pieceIn with rfl | later
        · exact List.not_mem_nil
        · exact inductionHypothesis later
      · rw [if_neg isSeparator] at pieceIn
        cases pieces : splitAt separator rest with
        | nil => exact absurd pieces (splitAt_ne_nil separator rest)
        | cons first others =>
            rw [pieces] at pieceIn inductionHypothesis
            rcases List.mem_cons.1 pieceIn with rfl | later
            · rw [List.mem_cons, not_or]
              exact ⟨fun same => isSeparator same.symm, inductionHypothesis List.mem_cons_self⟩
            · exact inductionHypothesis (List.mem_cons_of_mem _ later)

/-- What is no separator is in one of the pieces. -/
theorem exists_of_mem_of_ne {text : List α} {x : α} (inText : x ∈ text)
    (notSeparator : x ≠ separator) : ∃ piece ∈ splitAt separator text, x ∈ piece := by
  induction text with
  | nil => exact absurd inText List.not_mem_nil
  | cons y text inductionHypothesis =>
      rw [splitAt]
      split
      · rename_i isSeparator
        rcases List.mem_cons.1 inText with rfl | later
        · exact absurd isSeparator notSeparator
        · obtain ⟨piece, pieceIn, isIn⟩ := inductionHypothesis later
          exact ⟨piece, List.mem_cons_of_mem _ pieceIn, isIn⟩
      · cases pieces : splitAt separator text with
        | nil => exact absurd pieces (splitAt_ne_nil separator text)
        | cons first others =>
            rcases List.mem_cons.1 inText with rfl | later
            · exact ⟨x :: first, List.mem_cons_self, List.mem_cons_self⟩
            · obtain ⟨piece, pieceIn, isIn⟩ := inductionHypothesis later
              rw [pieces] at pieceIn
              rcases List.mem_cons.1 pieceIn with rfl | other
              · exact ⟨y :: piece, List.mem_cons_self, List.mem_cons_of_mem _ isIn⟩
              · exact ⟨piece, List.mem_cons_of_mem _ other, isIn⟩

theorem divideAt_append_cons {left : List α} (absent : separator ∉ left) (right : List α) :
    divideAt separator (left ++ separator :: right) = (left, right) := by
  have others : ∀ x ∈ left, decide (x ≠ separator) = true := by
    intro x member
    rw [decide_eq_true_eq]
    rintro rfl
    exact absent member
  unfold divideAt
  rw [List.takeWhile_append_of_pos others, List.dropWhile_append_of_pos others,
    List.takeWhile_cons_of_neg (by simp), List.dropWhile_cons_of_neg (by simp), List.append_nil,
    List.drop_one, List.tail_cons]

end

/-! ## Names and values -/

/-- A name or value holds plain characters, `%` and `+`. -/
theorem isPlain_or_of_mem_encode {text : String} {c : Char} (charIn : c ∈ (encode text).toList) :
    c.toNat < 0x80 ∧ (isPlain c = true ∨ c = '%' ∨ c = '+') := by
  by_cases blank : c = '+'
  · subst blank
    exact ⟨by decide, .inr (.inr rfl)⟩
  · have inSegment : c ∈ (encodeSegment text).toList := by
      rw [toList_encodeSegment, List.mem_flatMap]
      refine ⟨c, charIn, ?_⟩
      rw [if_neg blank]
      exact List.mem_singleton_self c
    obtain ⟨ascii, plain⟩ := isPlain_or_of_mem_encodeSegment inSegment
    exact ⟨ascii, plain.imp_right .inl⟩

/-- A mark that is never written is no byte of a name or value. -/
theorem not_mem_encode {mark : Char} (ascii : mark.toNat < 0x80)
    (never : ¬ (isPlain mark = true ∨ mark = '%' ∨ mark = '+')) (text : String) :
    UInt8.ofNat mark.toNat ∉ Utf8.encode (encode text) := by
  intro byteIn
  exact never (isPlain_or_of_mem_encode (mem_of_ofNat_mem_flatMap ascii byteIn)).2

theorem plusToBlank_append (left right : List UInt8) :
    plusToBlank (left ++ right) = plusToBlank left ++ plusToBlank right :=
  List.map_append

theorem plusToBlank_eq_self {bytes : List UInt8} (noPlus : 0x2B ∉ bytes) :
    plusToBlank bytes = bytes := by
  refine (List.map_congr_left fun byte byteIn => ?_).trans (List.map_id bytes)
  rw [if_neg]
  · rfl
  · rintro rfl
    exact noPlus byteIn

/-- A written character is read as its bytes. -/
theorem decodeBytes_encodeChar (c : Char) (rest : List UInt8) :
    Percent.decodeBytes (plusToBlank ((encodeChar c).flatMap String.utf8EncodeChar) ++ rest) =
      String.utf8EncodeChar c ++ Percent.decodeBytes rest := by
  unfold encodeChar
  by_cases blank : c = ' '
  · subst blank
    exact Percent.decodeBytes_cons (by decide) rest
  · have noPlus : 0x2B ∉ (Percent.encodeChar isPlain c).flatMap String.utf8EncodeChar := by
      have kept {d : Char} (charIn : d ∈ Percent.encodeChar isPlain c) :
          isPlain d = true ∨ d = '%' := by
        have inSegment : d ∈ (encodeSegment (String.ofList [c])).toList := by
          unfold encodeSegment
          rw [String.toList_ofList, String.toList_ofList, List.flatMap_singleton]
          exact charIn
        exact (isPlain_or_of_mem_encodeSegment inSegment).2
      intro byteIn
      have plusIn : '+' ∈ Percent.encodeChar isPlain c :=
        mem_of_ofNat_mem_flatMap (by decide) byteIn
      exact absurd (kept plusIn) (by decide)
    rw [if_neg blank, plusToBlank_eq_self noPlus, Percent.decodeBytes_encodeChar (by decide)]

/-- A name or value is read as the text that it was written for. -/
theorem decode_encode (text : String) : decode (Utf8.encode (encode text)) = text := by
  have bytes : Percent.decodeBytes (plusToBlank (Utf8.encode (encode text))) =
      Utf8.encode text := by
    unfold encode Utf8.encode
    rw [String.toList_ofList]
    induction text.toList with
    | nil => rfl
    | cons c rest inductionHypothesis =>
        rw [List.flatMap_cons, List.flatMap_append, plusToBlank_append, decodeBytes_encodeChar,
          inductionHypothesis, List.flatMap_cons]
  unfold decode
  rw [bytes, Utf8.decodeLossy_encode]

/-! ## Pairs -/

theorem encode_writePair (pair : String × String) :
    Utf8.encode (writePair pair) =
      Utf8.encode (encode pair.1) ++ 0x3D :: Utf8.encode (encode pair.2) := by
  have equals : Utf8.encode "=" = [0x3D] := by decide +kernel
  unfold writePair
  rw [Utf8.encode_append, Utf8.encode_append, equals, List.append_assoc, List.singleton_append]

theorem not_mem_encode_writePair (pair : String × String) :
    0x26 ∉ Utf8.encode (writePair pair) := by
  have absent (text : String) : 0x26 ∉ Utf8.encode (encode text) :=
    @not_mem_encode '&' (by decide) (by decide) text
  rw [encode_writePair, List.mem_append, List.mem_cons]
  rintro (inName | equals | inValue)
  · exact absent _ inName
  · contradiction
  · exact absent _ inValue

/-- The pieces of a form are its pairs. A form of no pairs is one empty piece. -/
theorem splitAt_encode_writePairs {pairs : List (String × String)} (some : pairs ≠ []) :
    splitAt 0x26 (Utf8.encode (writePairs pairs)) =
      pairs.map fun pair => Utf8.encode (writePair pair) := by
  have ampersand : Utf8.encode "&" = [0x26] := by decide +kernel
  unfold writePairs
  induction pairs with
  | nil => contradiction
  | cons pair rest inductionHypothesis =>
      cases rest with
      | nil =>
          rw [List.map_singleton, String.intercalate_singleton,
            splitAt_of_not_mem 0x26 (not_mem_encode_writePair pair)]
          rfl
      | cons second rest =>
          have others := inductionHypothesis (List.cons_ne_nil second rest)
          rw [List.map_cons] at others
          rw [List.map_cons, List.map_cons, String.intercalate_cons_cons, Utf8.encode_append,
            Utf8.encode_append, ampersand, List.append_assoc, List.singleton_append,
            splitAt_append_cons, others, splitAt_of_not_mem 0x26 (not_mem_encode_writePair pair)]
          rfl

/-- A form is read as the pairs that it was written for, in their order. -/
theorem readPairs_writePairs (pairs : List (String × String)) :
    readPairs (writePairs pairs) = pairs := by
  by_cases none : pairs = []
  · subst none
    decide +kernel
  · have pieces : (pairs.map fun pair => Utf8.encode (writePair pair)).filter (!·.isEmpty) =
        pairs.map fun pair => Utf8.encode (writePair pair) := by
      rw [List.filter_eq_self]
      intro piece pieceIn
      obtain ⟨pair, _, rfl⟩ := List.mem_map.1 pieceIn
      rw [encode_writePair]
      simp
    unfold readPairs
    rw [splitAt_encode_writePairs none, pieces, List.map_map]
    refine (List.map_congr_left fun pair _ => ?_).trans (List.map_id pairs)
    have noEquals : 0x3D ∉ Utf8.encode (encode pair.1) :=
      @not_mem_encode '=' (by decide) (by decide) pair.1
    rw [Function.comp_apply, encode_writePair, divideAt_append_cons 0x3D noEquals]
    dsimp only
    rw [decode_encode, decode_encode]
    rfl

theorem writePairs_inj {left right : List (String × String)}
    (same : writePairs left = writePairs right) : left = right := by
  rw [← readPairs_writePairs left, same, readPairs_writePairs]

theorem writePair_inj {left right : String × String} (same : writePair left = writePair right) :
    left = right := by
  apply List.singleton_inj.1
  apply writePairs_inj
  unfold writePairs
  rw [List.map_singleton, List.map_singleton, same]

end Form

end BillingClient.Text
