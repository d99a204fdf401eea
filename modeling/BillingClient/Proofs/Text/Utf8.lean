import BillingClient.Text.Utf8

/-!
Contract: text written as UTF-8 is read back as it was.

Main statements: `symbols_encode`, by which the reader finds every character of a
text and nothing else, and `decode?_encode`. A character is followed through the
reader byte by byte: the lead byte opens a sequence, and each further byte adds six
bits to it.
-/

namespace BillingClient.Text.Utf8

/-- The byte of a number that fits. -/
theorem toNat_ofNat (value : Nat) (small : value < 256) : (UInt8.ofNat value).toNat = value := by
  simp only [UInt8.toNat_ofNat']
  omega

/-! ## Lead bytes -/

theorem start_ascii {value : Nat} (small : value < 0x80) :
    start (UInt8.ofNat value) = .inl (.char (Char.ofNat value)) := by
  have bits := toNat_ofNat value (by omega)
  have below : UInt8.ofNat value < 0x80 := by
    rw [UInt8.lt_iff_toNat_lt, bits]
    exact small
  rw [start, if_pos below, bits]

/-- A byte from 0x80 on is read as a lead byte. -/
private theorem start_lead {value : Nat} (large : 0x80 ≤ value) (small : value < 256)
    {pending : Pending} (opens : Pending.ofLead? (UInt8.ofNat value) = some pending) :
    start (UInt8.ofNat value) = .inr pending := by
  have notAscii : ¬ UInt8.ofNat value < 0x80 := by
    rw [UInt8.lt_iff_toNat_lt, toNat_ofNat value small]
    exact Nat.not_lt.2 large
  rw [start, if_neg notAscii, opens]

/-- A sequence that has read some bits and takes a byte with some further bits. -/
structure Pending.Takes (pending : Pending) (bits owed more : Nat) : Prop where
  value_eq : pending.value = bits
  owed_eq : pending.owed = owed
  accepts_eq : pending.accepts (UInt8.ofNat (more + 0x80)) = true

private theorem accepts_between {low high : UInt8} {owed value more : Nat} (small : more < 64)
    (above : low.toNat ≤ more + 0x80) (below : more + 0x80 ≤ high.toNat) :
    (Pending.mk low high owed value).accepts (UInt8.ofNat (more + 0x80)) = true := by
  have bits := toNat_ofNat (more + 0x80) (by omega)
  simp only [Pending.accepts, UInt8.le_iff_toNat_le, bits, Bool.and_eq_true, decide_eq_true_eq]
  exact ⟨above, below⟩

/-- The lead byte of two. -/
theorem start_two (bits more : Nat) (least : 2 ≤ bits) (small : bits < 32)
    (moreSmall : more < 64) :
    ∃ pending, start (UInt8.ofNat (bits + 0xC0)) = .inr pending ∧ pending.Takes bits 0 more := by
  have value := toNat_ofNat (bits + 0xC0) (by omega)
  refine ⟨⟨0x80, 0xBF, 0, bits⟩, start_lead (by omega) (by omega) ?_, rfl, rfl,
    accepts_between moreSmall (by simp) (by simp; omega)⟩
  simp only [Pending.ofLead?, UInt8.le_iff_toNat_le, value]
  simp
  omega

/-- The lead byte of three. The second byte leaves out overlong forms and surrogates. -/
theorem start_three (bits more : Nat) (small : bits < 16) (moreSmall : more < 64)
    (notOverlong : bits = 0 → 32 ≤ more) (notSurrogate : bits = 13 → more < 32) :
    ∃ pending, start (UInt8.ofNat (bits + 0xE0)) = .inr pending ∧ pending.Takes bits 1 more := by
  have value := toNat_ofNat (bits + 0xE0) (by omega)
  by_cases zero : bits = 0
  · subst zero
    exact ⟨⟨0xA0, 0xBF, 1, 0⟩, start_lead (by omega) (by omega) rfl, rfl, rfl,
      accepts_between moreSmall (by have := notOverlong rfl; simp; omega) (by simp; omega)⟩
  · by_cases thirteen : bits = 13
    · subst thirteen
      exact ⟨⟨0x80, 0x9F, 1, 13⟩, start_lead (by omega) (by omega) rfl, rfl, rfl,
        accepts_between moreSmall (by simp) (by have := notSurrogate rfl; simp; omega)⟩
    · refine ⟨⟨0x80, 0xBF, 1, bits⟩, start_lead (by omega) (by omega) ?_, rfl, rfl,
        accepts_between moreSmall (by simp) (by simp; omega)⟩
      simp only [Pending.ofLead?, UInt8.le_iff_toNat_le, beq_iff_eq, ← UInt8.toNat_inj, value]
      simp
      rw [if_neg zero, if_neg thirteen, if_pos ⟨by omega, by omega⟩]

/-- The lead byte of four. The second byte leaves out overlong forms and what is above
U+10FFFF. -/
theorem start_four (bits more : Nat) (small : bits < 5) (moreSmall : more < 64)
    (notOverlong : bits = 0 → 16 ≤ more) (inRange : bits = 4 → more < 16) :
    ∃ pending, start (UInt8.ofNat (bits + 0xF0)) = .inr pending ∧ pending.Takes bits 2 more := by
  have value := toNat_ofNat (bits + 0xF0) (by omega)
  by_cases zero : bits = 0
  · subst zero
    exact ⟨⟨0x90, 0xBF, 2, 0⟩, start_lead (by omega) (by omega) rfl, rfl, rfl,
      accepts_between moreSmall (by have := notOverlong rfl; simp; omega) (by simp; omega)⟩
  · by_cases four : bits = 4
    · subst four
      exact ⟨⟨0x80, 0x8F, 2, 4⟩, start_lead (by omega) (by omega) rfl, rfl, rfl,
        accepts_between moreSmall (by simp) (by have := inRange rfl; simp; omega)⟩
    · refine ⟨⟨0x80, 0xBF, 2, bits⟩, start_lead (by omega) (by omega) ?_, rfl, rfl,
        accepts_between moreSmall (by simp) (by simp; omega)⟩
      simp only [Pending.ofLead?, UInt8.le_iff_toNat_le, beq_iff_eq, ← UInt8.toNat_inj, value]
      simp
      rw [if_neg zero, if_neg four, if_pos ⟨by omega, by omega⟩]

/-! ## Further bytes -/

theorem symbolsFrom_start {byte : UInt8} {rest : List UInt8} {pending : Pending}
    (opens : start byte = .inr pending) :
    symbolsFrom none (byte :: rest) = symbolsFrom (some pending) rest := by
  rw [symbolsFrom, opens]

private theorem extend_ofNat {pending : Pending} {more : Nat} (small : more < 64) :
    pending.extend (UInt8.ofNat (more + 0x80)) = pending.value * 64 + more := by
  have bits := toNat_ofNat (more + 0x80) (by omega)
  unfold Pending.extend
  rw [bits, Nat.add_sub_cancel]

/-- A byte that is not the last one leaves the sequence open. -/
theorem symbolsFrom_more {pending : Pending} {bits owed more : Nat} (next : Nat)
    (rest : List UInt8)
    (takes : pending.Takes bits (owed + 1) more) (small : more < 64) (nextSmall : next < 64) :
    ∃ after : Pending, symbolsFrom (some pending) (UInt8.ofNat (more + 0x80) :: rest) =
        symbolsFrom (some after) rest ∧ after.Takes (bits * 64 + more) owed next := by
  refine ⟨⟨0x80, 0xBF, owed, bits * 64 + more⟩, ?_, rfl, rfl,
    accepts_between nextSmall (by simp) (by simp; omega)⟩
  rw [symbolsFrom, if_pos takes.accepts_eq]
  simp only [takes.owed_eq, extend_ofNat small, takes.value_eq]

/-- The last byte completes the character. -/
theorem symbolsFrom_last {pending : Pending} {bits more : Nat} {rest : List UInt8}
    (takes : pending.Takes bits 0 more) (small : more < 64) :
    symbolsFrom (some pending) (UInt8.ofNat (more + 0x80) :: rest) =
      .char (Char.ofNat (bits * 64 + more)) :: symbolsFrom none rest := by
  rw [symbolsFrom, if_pos takes.accepts_eq]
  simp only [takes.owed_eq, extend_ofNat small, takes.value_eq]

/-! ## Characters and texts -/

/-- The bytes of a character are read as that character. -/
theorem symbolsFrom_encodeChar (c : Char) (rest : List UInt8) :
    symbolsFrom none (String.utf8EncodeChar c ++ rest) = .char c :: symbolsFrom none rest := by
  have valid : c.val.toNat < 0xD800 ∨ 0xDFFF < c.val.toNat ∧ c.val.toNat < 0x110000 := c.valid
  have same : ∀ value, value = c.val.toNat → Char.ofNat value = c := by
    rintro value rfl
    exact Char.ofNat_toNat c
  unfold String.utf8EncodeChar
  generalize c.val.toNat = code at valid same
  dsimp only
  split
  · rw [List.singleton_append, symbolsFrom, start_ascii (by omega)]
    simp only [same code rfl]
  · split
    · obtain ⟨pending, opens, takes⟩ := start_two (code / 64 % 0x20) (code % 0x40)
        (by omega) (by omega) (by omega)
      rw [List.cons_append, symbolsFrom_start opens, List.singleton_append,
        symbolsFrom_last takes (by omega), same _ (by omega)]
    · split
      · obtain ⟨pending, opens, takes⟩ := start_three (code / 4096 % 0x10) (code / 64 % 0x40)
          (by omega) (by omega) (by omega) (by omega)
        obtain ⟨second, secondIs, secondTakes⟩ := symbolsFrom_more (code % 0x40)
          (UInt8.ofNat (code % 0x40 + 0x80) :: rest) takes (by omega) (by omega)
        rw [List.cons_append, symbolsFrom_start opens, List.cons_append, List.singleton_append,
          secondIs, symbolsFrom_last secondTakes (by omega), same _ (by omega)]
      · obtain ⟨pending, opens, takes⟩ := start_four (code / 262144 % 0x08) (code / 4096 % 0x40)
          (by omega) (by omega) (by omega) (by omega)
        obtain ⟨second, secondIs, secondTakes⟩ := symbolsFrom_more (code / 64 % 0x40)
          (UInt8.ofNat (code / 64 % 0x40 + 0x80) ::
            UInt8.ofNat (code % 0x40 + 0x80) :: rest) takes (by omega) (by omega)
        obtain ⟨third, thirdIs, thirdTakes⟩ := symbolsFrom_more (code % 0x40)
          (UInt8.ofNat (code % 0x40 + 0x80) :: rest) secondTakes (by omega) (by omega)
        rw [List.cons_append, symbolsFrom_start opens, List.cons_append, List.cons_append,
          List.singleton_append, secondIs, thirdIs, symbolsFrom_last thirdTakes (by omega),
          same _ (by omega)]

/-- The bytes of some characters are read as those characters. -/
theorem symbols_flatMap_encodeChar (chars : List Char) :
    symbols (chars.flatMap String.utf8EncodeChar) = chars.map .char := by
  induction chars with
  | nil => rfl
  | cons c rest inductionHypothesis =>
      rw [symbols] at inductionHypothesis ⊢
      rw [List.flatMap_cons, symbolsFrom_encodeChar, inductionHypothesis, List.map_cons]

/-- The bytes of a text are read as its characters. -/
theorem symbols_encode (text : String) : symbols (encode text) = text.toList.map .char :=
  symbols_flatMap_encodeChar text.toList

/-- The bytes of a text are well-formed, and are that text. -/
theorem decode?_encode (text : String) : decode? (encode text) = some text := by
  have characters : (text.toList.map Symbol.char).mapM Symbol.char? = some text.toList := by
    rw [List.mapM_map]
    exact (List.mapM_pure (m := Option)).trans (congrArg some (List.map_id _))
  rw [decode?, symbols_encode, characters, Option.map_some, String.ofList_toList]

/-! ## The last byte -/

/-- A sequence goes on with bytes beyond ASCII alone. -/
theorem Pending.low_ofLead? {byte : UInt8} {pending : Pending}
    (opens : Pending.ofLead? byte = some pending) : 0x80 ≤ pending.low := by
  unfold Pending.ofLead? at opens
  dsimp only at opens
  repeat'
    split at opens
    · cases opens
      exact of_decide_eq_true rfl
  cases opens

/-- A character of ASCII at the end of some bytes is read as itself. -/
theorem symbolsFrom_append_ascii {code : Nat} (ascii : code < 0x80) (front : List UInt8)
    (pending? : Option Pending) (beyond : ∀ pending ∈ pending?, 0x80 ≤ pending.low) :
    ∃ symbols, symbolsFrom pending? (front ++ [UInt8.ofNat code]) =
      symbols ++ [.char (Char.ofNat code)] := by
  have goesOn (owed value : Nat) (pending : Pending)
      (isNext : pending ∈ some (⟨0x80, 0xBF, owed, value⟩ : Pending)) : 0x80 ≤ pending.low := by
    cases isNext
    exact of_decide_eq_true rfl
  have opened {byte : UInt8} {pending : Pending} (opens : start byte = .inr pending)
      (next : Pending) (isNext : next ∈ some pending) : 0x80 ≤ next.low := by
    cases isNext
    unfold start at opens
    split at opens
    · cases opens
    · split at opens
      · rename_i isLead
        cases opens
        exact Pending.low_ofLead? isLead
      · cases opens
  have behind (symbol : Symbol) {front symbols : List Symbol} (last : Symbol)
      (isBehind : symbols = front ++ [last]) : symbol :: symbols = (symbol :: front) ++ [last] := by
    rw [isBehind, List.cons_append]
  induction front generalizing pending? with
  | nil =>
      cases pending? with
      | none => exact ⟨[], by rw [List.nil_append, symbolsFrom, start_ascii ascii]; rfl⟩
      | some pending =>
          have refused : pending.accepts (UInt8.ofNat code) = false := by
            have low := UInt8.le_iff_toNat_le.1 (beyond pending rfl)
            have bits := toNat_ofNat code (by omega)
            simp only [Pending.accepts, UInt8.le_iff_toNat_le, bits, Bool.and_eq_false_iff,
              decide_eq_false_iff_not]
            exact .inl (Nat.not_le.2 (Nat.lt_of_lt_of_le ascii low))
          refine ⟨[.illFormed], ?_⟩
          rw [List.nil_append, symbolsFrom, refused, if_neg Bool.false_ne_true, start_ascii ascii]
          rfl
  | cons byte front inductionHypothesis =>
      rw [List.cons_append]
      cases pending? with
      | none =>
          rw [symbolsFrom]
          cases opens : start byte with
          | inl symbol =>
              obtain ⟨symbols, found⟩ := inductionHypothesis none (by rintro _ ⟨⟩)
              exact ⟨_, behind symbol _ found⟩
          | inr pending => exact inductionHypothesis (some pending) (opened opens)
      | some pending =>
          rw [symbolsFrom]
          split
          · split
            · obtain ⟨symbols, found⟩ := inductionHypothesis none (by rintro _ ⟨⟩)
              exact ⟨_, behind _ _ found⟩
            · exact inductionHypothesis _ (goesOn _ _)
          · cases opens : start byte with
            | inl symbol =>
                obtain ⟨symbols, found⟩ := inductionHypothesis none (by rintro _ ⟨⟩)
                exact ⟨_, behind _ _ (behind symbol _ found)⟩
            | inr next =>
                obtain ⟨symbols, found⟩ := inductionHypothesis (some next) (opened opens)
                exact ⟨_, behind _ _ found⟩

/-- A text ends with the character of ASCII that its bytes end with. -/
theorem exists_of_decode?_append_ascii {code : Nat} (ascii : code < 0x80) {front : List UInt8}
    {text : String} (decoded : decode? (front ++ [UInt8.ofNat code]) = some text) :
    ∃ before, text.toList = before ++ [Char.ofNat code] := by
  obtain ⟨symbols, found⟩ := symbolsFrom_append_ascii ascii front none (by rintro _ ⟨⟩)
  unfold decode? Utf8.symbols at decoded
  rw [found, List.mapM_append] at decoded
  cases before : symbols.mapM Symbol.char? with
  | none => simp [before] at decoded
  | some chars =>
      refine ⟨chars, ?_⟩
      simp [before, Symbol.char?] at decoded
      rw [← decoded, String.toList_push, String.toList_ofList]

end BillingClient.Text.Utf8
