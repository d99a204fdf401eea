import BillingClient.Proofs.Text.Form
import BillingClient.Url.Host

/-!
Contract: the host of a web address does not end with a blank.

No character is composed with one of ASCII that comes after it, and Punycode keeps what is ASCII
in a label, so a blank or control at the end of a host is still there when its domain is looked
through for what no domain holds. Main statement: `Host.last_of_read`.
-/

namespace BillingClient

open BillingClient.Text

theorem exists_of_mapM_eq_some {α β : Type} {f : α → Option β} {items : List α}
    {results : List β} (found : items.mapM f = some results) {item : α} (itemIn : item ∈ items) :
    ∃ result ∈ results, f item = some result := by
  induction items generalizing results with
  | nil => exact absurd itemIn List.not_mem_nil
  | cons first items inductionHypothesis =>
      rw [List.mapM_cons] at found
      obtain ⟨result, isResult, found⟩ := Option.bind_eq_some_iff.1 found
      obtain ⟨others, areOthers, found⟩ := Option.bind_eq_some_iff.1 found
      cases found
      rcases List.mem_cons.1 itemIn with rfl | later
      · exact ⟨result, List.mem_cons_self, isResult⟩
      · obtain ⟨other, otherIn, isOther⟩ := inductionHypothesis areOthers later
        exact ⟨other, List.mem_cons_of_mem _ otherIn, isOther⟩

namespace Url.Idna

/-! ## The last character of a normalized text -/

variable {last : Char}

theorem compositeOf?_eq_none (starter : Char) (early : last.toNat < 0x300) :
    compositeOf? starter last = none := by
  unfold compositeOf?
  exact if_pos early

theorem combiningClass_eq_zero (early : last.toNat < 0x300) : combiningClass last = 0 := by
  unfold combiningClass
  exact if_pos early

/-- No mark goes past the last character, which is none. -/
theorem insertMark_append (early : last.toNat < 0x300) (c : Char) (front : List Char) :
    ∃ before, insertMark c (front ++ [last]) = before ++ [last] := by
  have stays := combiningClass_eq_zero early
  induction front with
  | nil =>
      refine ⟨[c], ?_⟩
      rw [List.nil_append, insertMark, if_neg (by simp [stays])]
      rfl
  | cons d front inductionHypothesis =>
      obtain ⟨before, found⟩ := inductionHypothesis
      rw [List.cons_append, insertMark]
      split
      · exact ⟨d :: before, by rw [found, List.cons_append]⟩
      · exact ⟨c :: d :: front, rfl⟩

theorem sortMarks_append (early : last.toNat < 0x300) (front : List Char) :
    ∃ before, sortMarks (front ++ [last]) = before ++ [last] := by
  unfold sortMarks
  induction front with
  | nil => exact ⟨[], by simp [combiningClass_eq_zero early]⟩
  | cons c front inductionHypothesis =>
      obtain ⟨before, found⟩ := inductionHypothesis
      rw [List.cons_append, List.foldr_cons, found]
      split
      · exact ⟨c :: before, rfl⟩
      · exact insertMark_append early c before

theorem composeFrom_append (early : last.toNat < 0x300) (front : List Char) (starter : Char)
    (passed : List Char) (lastClass : Option Nat) :
    ∃ before, composeFrom starter passed lastClass (front ++ [last]) = before ++ [last] := by
  induction front generalizing starter passed lastClass with
  | nil =>
      refine ⟨starter :: passed.reverse, ?_⟩
      rw [List.nil_append, composeFrom.eq_def]
      simp [compositeOf?_eq_none starter early, combiningClass_eq_zero early, composeFrom]
  | cons c front inductionHypothesis =>
      rw [List.cons_append, composeFrom.eq_def]
      dsimp only
      -- Whether the character is composed does not matter for those behind it.
      split
      · exact inductionHypothesis _ passed lastClass
      · split
        · obtain ⟨before, found⟩ := inductionHypothesis c [] none
          rw [found]
          exact ⟨starter :: passed.reverse ++ before, by simp⟩
        · exact inductionHypothesis starter (c :: passed) (some (combiningClass c))

/-- A character of ASCII stays the last one. -/
theorem compose_append (ascii : last.toNat < 0x80) (front : List Char) :
    ∃ before, compose (front ++ [last]) = before ++ [last] := by
  have early : last.toNat < 0x300 := by omega
  have whole : [last].flatMap decomposeChar = [last] := by
    rw [List.flatMap_singleton, decomposeChar, if_pos (by omega)]
  obtain ⟨sorted, isSorted⟩ := sortMarks_append early (front.flatMap decomposeChar)
  unfold compose
  rw [List.flatMap_append, whole, isSorted]
  cases sorted with
  | nil => exact ⟨[], rfl⟩
  | cons starter sorted => exact composeFrom_append early sorted starter [] none

/-! ## Characters of ASCII in a label -/

/-- What is written before the digits of a Punycode stays there. -/
theorem isPrefix_insertCode (basicCount target : Nat) (text : List Char)
    (state : Punycode.Progress) :
    state.output <+: (Punycode.insertCode basicCount text state target).output := by
  have passes (state : Punycode.Progress) (c : Char) :
      state.output <+: (Punycode.passChar basicCount target state c).output := by
    unfold Punycode.passChar
    split
    · exact List.prefix_rfl
    · split
      · exact List.prefix_append _ _
      · exact List.prefix_rfl
  have all (text : List Char) (state : Punycode.Progress) :
      state.output <+: (text.foldl (Punycode.passChar basicCount target) state).output := by
    induction text generalizing state with
    | nil => exact List.prefix_rfl
    | cons c text inductionHypothesis =>
        exact (passes state c).trans (inductionHypothesis _)
  exact all text { state with delta := state.delta + (target - state.code) * (state.handled + 1) }

/-- Punycode keeps every character of ASCII. -/
theorem mem_encode {label : List Char} {c : Char} (charIn : c ∈ label) (ascii : c.toNat < 0x80) :
    c ∈ Punycode.encode label := by
  have basicIn : c ∈ label.filter (·.toNat < Punycode.initialCode) :=
    List.mem_filter.2 ⟨charIn, decide_eq_true ascii⟩
  have kept (codes : List Nat) (state : Punycode.Progress) :
      state.output <+:
        (codes.foldl (Punycode.insertCode (label.filter (·.toNat < Punycode.initialCode)).length
          label) state).output := by
    induction codes generalizing state with
    | nil => exact List.prefix_rfl
    | cons code codes inductionHypothesis =>
        exact (isPrefix_insertCode _ code label state).trans (inductionHypothesis _)
  unfold Punycode.encode
  apply (kept _ _).subset
  dsimp only
  split
  · rename_i isEmpty
    rw [List.isEmpty_iff.1 isEmpty] at basicIn
    exact absurd basicIn List.not_mem_nil
  · exact List.mem_append_left _ basicIn

/-- A label is sent with the characters of ASCII that it is read with, behind the prefix of a
Punycode. -/
theorem mem_sentLabel {label shown : List Char} (isShown : shownLabel? label = some shown)
    {c : Char} (charIn : c ∈ label) (ascii : c.toNat < 0x80) (notPrefix : c ∉ acePrefix) :
    c ∈ sentLabel shown := by
  unfold shownLabel? at isShown
  unfold sentLabel
  split at isShown
  · rename_i isAce
    split at isShown
    · contradiction
    · obtain ⟨_, written⟩ := Option.filter_eq_some_iff.1 isShown
      simp only [Bool.and_eq_true, decide_eq_true_eq] at written
      obtain ⟨⟨⟨beyond, _⟩, _⟩, same⟩ := written
      have notAscii : shown.all (·.toNat < 0x80) = false := by
        obtain ⟨d, shownIn, large⟩ := List.any_eq_true.1 beyond
        rw [List.all_eq_false]
        refine ⟨d, shownIn, ?_⟩
        have := of_decide_eq_true large
        simpa using this
      have behind : c ∈ label.drop 4 := by
        rw [← List.take_append_drop 4 label, isAce] at charIn
        exact (List.mem_append.1 charIn).resolve_left notPrefix
      rw [notAscii, if_neg Bool.false_ne_true, same]
      exact List.mem_append_right _ behind
  · split at isShown
    · cases isShown
      split
      · exact charIn
      · exact List.mem_append_right _ (mem_encode charIn ascii)
    · contradiction

theorem mem_joinLabels {labels : List (List Char)} {label : List Char} (labelIn : label ∈ labels)
    {c : Char} (charIn : c ∈ label) : c ∈ joinLabels labels := by
  induction labels with
  | nil => exact absurd labelIn List.not_mem_nil
  | cons first labels inductionHypothesis =>
      cases labels with
      | nil =>
          rw [joinLabels, ← List.mem_singleton.1 labelIn]
          exact charIn
      | cons second labels =>
          rw [joinLabels, List.mem_append, List.mem_cons]
          · rcases List.mem_cons.1 labelIn with rfl | later
            · exact .inl charIn
            · exact .inr (.inr (inductionHypothesis later))
          · exact List.cons_ne_nil second labels

/-! ## Domains -/

/-- No domain ends with a blank or a control. -/
theorem toAscii?_append_blank (blank : last.toNat ≤ 0x20) (front : List Char) :
    toAscii? (front ++ [last]) = none := by
  have ascii : last.toNat < 0x80 := by omega
  have lower : last.toLower = last := by
    revert blank
    exact forall_ascii (fun c => c.toNat ≤ 0x20 → c.toLower = c) (by decide) ascii
  have notDot : last ≠ '.' := by
    rintro rfl
    contradiction
  have notPrefix : last ∉ acePrefix := by
    intro charIn
    simp only [acePrefix, List.mem_cons, List.not_mem_nil, or_false] at charIn
    rcases charIn with rfl | rfl | rfl | rfl <;> contradiction
  have forbidden {text : List Char} (charIn : last ∈ text) : text.any isForbidden = true := by
    rw [List.any_eq_true]
    refine ⟨last, charIn, ?_⟩
    simp [isForbidden, blank]
  unfold toAscii?
  split
  · dsimp only
    rw [if_pos (forbidden ?_)]
    rw [List.map_append, List.map_singleton, lower]
    exact List.mem_append_right _ (List.mem_singleton_self last)
  · split
    · rfl
    · have mapped : mapChar last = [last] := by
        rw [mapChar, if_pos ascii, lower]
      obtain ⟨before, composed⟩ := compose_append ascii (front.flatMap mapChar)
      rw [List.flatMap_append, List.flatMap_singleton, mapped, composed]
      cases shown : (Form.splitAt '.' (before ++ [last])).mapM shownLabel? with
      | none => rfl
      | some labels =>
          obtain ⟨label, labelIn, charIn⟩ := Form.exists_of_mem_of_ne '.'
            (List.mem_append_right before (List.mem_singleton_self last)) notDot
          obtain ⟨found, foundIn, isShown⟩ := exists_of_mapM_eq_some shown labelIn
          have sent := mem_joinLabels (List.mem_map_of_mem (f := sentLabel) foundIn)
            (mem_sentLabel isShown charIn ascii notPrefix)
          dsimp only
          rw [forbidden sent, Bool.not_true, Bool.and_false, if_neg Bool.false_ne_true]

end Url.Idna

namespace Url

/-! ## Hosts -/

/-- The host of a web address does not end with a blank or a control. -/
theorem Host.last_of_read {text : List Char} {host : Host} (read : Host.read text = .ok host) :
    ∀ c ∈ text.getLast?, 0x20 < c.toNat := by
  intro c isLast
  apply Nat.lt_of_not_le
  intro blank
  unfold Host.read at read
  split at read
  · unfold readBracketed at read
    split at read
    · rename_i bracket
      rw [bracket] at isLast
      cases isLast
      contradiction
    · contradiction
  · obtain ⟨front, rfl⟩ := List.getLast?_eq_some_iff.1 isLast
    have ascii : c.toNat < 0x80 := by omega
    have bytes : Percent.decode (String.ofList (front ++ [c])) =
        Percent.decode (String.ofList front) ++ [UInt8.ofNat c.toNat] := by
      unfold Percent.decode Utf8.encode
      rw [String.toList_ofList, String.toList_ofList, List.flatMap_append, List.flatMap_singleton,
        utf8EncodeChar_of_lt ascii, Percent.decodeBytes_append_last]
      rw [Percent.ofNat_toNat_of_lt ascii]
      revert blank
      exact forall_ascii (fun c => c.toNat ≤ 0x20 → hexDigit? c = none) (by decide) ascii
    have none : ((Utf8.decode? (Percent.decode (String.ofList (front ++ [c])))).bind fun name =>
        Idna.toAscii? name.toList) = none := by
      rw [bytes, Option.bind_eq_none_iff]
      intro name decoded
      obtain ⟨before, whole⟩ := Utf8.exists_of_decode?_append_ascii ascii decoded
      rw [whole, Char.ofNat_toNat]
      exact Idna.toAscii?_append_blank blank before
    dsimp only at read
    rw [none] at read
    contradiction

end Url

end BillingClient
