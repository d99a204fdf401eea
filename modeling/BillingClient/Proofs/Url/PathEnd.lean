import BillingClient.Proofs.Url.Server

/-!
Contract: what a path ends with, and what it has entered.

A path whose last piece is a segment has entered all of what it reaches, and one that ends with a
step has entered what it reaches but for a slash. After a slash at its end, or with blanks behind
it, it has entered more. Main statement: `withoutSlashes_readPath_iff`.
-/

namespace BillingClient.Url

open BillingClient.Text

/-! ## Last pieces -/

/-- What stands after the last slash of a path, in front of any text without slashes. -/
theorem exists_last_piece (isSpecial : Bool) (path : List Char) : ∃ front piece,
    (piece = [] ↔ ∀ c ∈ path.getLast?, isSlash isSpecial c = true) ∧ '/' ∉ piece ∧
    ∀ more, (∀ c ∈ more, isSlash isSpecial c = false) →
      divideSegments isSpecial (path ++ more) = front ++ [piece ++ more] := by
  -- The last piece grows at its end, so the induction is from there.
  induction path using List.reverseRecOn with
  | nil =>
      refine ⟨[], [], by simp, List.not_mem_nil, fun more noSlash => ?_⟩
      rw [List.nil_append, divideSegments_of_no_slash _ noSlash]
      rfl
  | append_singleton path c inductionHypothesis =>
      cases slash : isSlash isSpecial c with
      | true =>
          refine ⟨divideSegments isSpecial path, [], by simp [slash], List.not_mem_nil,
            fun more noSlash => ?_⟩
          rw [List.append_assoc, List.singleton_append,
            divideSegments_append_of_isSlash isSpecial slash,
            divideSegments_of_no_slash isSpecial noSlash]
          rfl
      | false =>
          obtain ⟨front, piece, _, pieceFree, divided⟩ := inductionHypothesis
          have notSlash : '/' ≠ c := by
            rintro rfl
            cases isSpecial <;> cases slash
          refine ⟨front, piece ++ [c], by simp [slash], by simp [pieceFree, notSlash],
            fun more noSlash => ?_⟩
          rw [List.append_assoc, List.append_assoc, List.singleton_append]
          apply divided
          rw [List.forall_mem_cons]
          exact ⟨slash, noSlash⟩

theorem mem_plainDots {text : List Char} {c : Char} (charIn : c ∈ text) (blank : c.toNat ≤ 0x20) :
    c ∈ plainDots text := by
  have notLetter : ∀ letter ∈ ['%', '2', 'e', 'E'], c ≠ letter := by
    rintro letter letterIn rfl
    simp only [List.mem_cons, List.not_mem_nil, or_false] at letterIn
    rcases letterIn with rfl | rfl | rfl | rfl <;> exact absurd blank (by decide)
  simp only [List.forall_mem_cons, List.not_mem_nil] at notLetter
  fun_induction plainDots text with
  | case1 rest inductionHypothesis | case2 rest inductionHypothesis =>
      simp only [List.mem_cons, notLetter, false_or] at charIn
      exact List.mem_cons_of_mem _ (inductionHypothesis charIn)
  | case3 first rest _ _ inductionHypothesis =>
      rw [List.mem_cons] at charIn ⊢
      exact charIn.imp_right inductionHypothesis
  | case4 => exact charIn

/-- Blanks stay in the segment that they end. -/
theorem Step.ofSegment_append_blanks (piece : List Char) {blanks : List Char} (some : blanks ≠ [])
    (areBlanks : ∀ c ∈ blanks, c.toNat ≤ 0x20) : Step.ofSegment (piece ++ blanks) =
      .enter (String.ofList (Percent.encodeChars segmentKeeps (piece ++ blanks))) := by
  obtain ⟨blank, blankIn⟩ := List.exists_mem_of_ne_nil blanks some
  have isBlank := areBlanks blank blankIn
  have stays := mem_plainDots (List.mem_append_right piece blankIn) isBlank
  have notDots : ∀ dots, (∀ c ∈ dots, c = '.') → plainDots (piece ++ blanks) ≠ dots := by
    rintro dots areDots rfl
    rw [areDots blank stays] at isBlank
    exact absurd isBlank (by decide)
  unfold ofSegment
  rw [if_neg (notDots _ (by simp)), if_neg (notDots _ (by simp))]

/-! ## Texts of paths -/

theorem segmentsText_reverse_cons (segment : String) (before : List String) :
    segmentsText (segment :: before).reverse = segmentsText before.reverse ++ ("/" ++ segment) := by
  rw [List.reverse_cons, segmentsText_append]
  unfold segmentsText
  rw [List.map_singleton, String.join_cons]
  exact congrArg _ String.append_empty

theorem segmentsText_reverse_cons_empty (before : List String) :
    segmentsText ("" :: before).reverse = segmentsText before.reverse ++ slashes 1 := by
  have slash : "/" ++ "" = slashes 1 := by decide
  rw [segmentsText_reverse_cons, slash]

theorem length_segmentsText_drop (before : List String) :
    (segmentsText (before.drop 1).reverse).length ≤ (segmentsText before.reverse).length := by
  cases before with
  | nil => exact Nat.le_refl _
  | cons segment before =>
      rw [segmentsText_reverse_cons, String.length_append]
      exact Nat.le_add_right _ _

/-- A piece adds no more to a path than a slash and its segment. -/
theorem length_finish_le (before : List String) (piece : List Char) :
    (segmentsText ((Step.ofSegment piece).finish before).reverse).length ≤
      (segmentsText before.reverse).length + 1 +
        (Percent.encodeChars segmentKeeps piece).length := by
  have empty (entered : List String) : (segmentsText ("" :: entered).reverse).length =
      (segmentsText entered.reverse).length + 1 := by
    rw [segmentsText_reverse_cons_empty, String.length_append]
    rfl
  unfold Step.ofSegment
  split
  · show (segmentsText ("" :: before).reverse).length ≤ _
    rw [empty]
    exact Nat.le_add_right _ _
  · split
    · have shorter := length_segmentsText_drop before
      show (segmentsText ("" :: before.drop 1).reverse).length ≤ _
      rw [empty]
      omega
    · show (segmentsText (String.ofList _ :: before).reverse).length ≤ _
      rw [segmentsText_reverse_cons, String.length_append, String.length_append,
        String.length_ofList, String.length_ofList, Nat.add_assoc]
      exact Nat.le_refl _

/-! ## What a path has entered -/

/-- The last step of a path, and of the path with blanks behind it. -/
theorem exists_last_step {c : Char} (slash : isSlash true c = true) (path : List Char) :
    ∃ before piece, (piece ≠ [] ↔ ∀ last ∈ (c :: path).getLast?, isSlash true last = false) ∧
      '/' ∉ piece ∧
      readPath true (c :: path) = ((Step.ofSegment piece).finish before).reverse ∧
      ∀ more, (∀ c ∈ more, isSlash true c = false) →
        enteredBy (c :: path ++ more) = (Step.ofSegment (piece ++ more)).move before := by
  obtain ⟨front, piece, pieceIs, pieceFree, divided⟩ := exists_last_piece true path
  refine ⟨movedBy [] (front.map Step.ofSegment), piece, ?_, pieceFree, ?_, fun more noSlash => ?_⟩
  · rw [Ne, pieceIs, List.getLast?_cons]
    cases path.getLast? with
    | none => simp [slash]
    | some last => simp
  · have whole := divided [] (List.forall_mem_nil _)
    rw [List.append_nil, List.append_nil] at whole
    rw [readPath, if_pos slash, readSegments, whole, List.map_append, List.map_singleton,
      walk_append _ _ (List.cons_ne_nil _ _)]
    rfl
  · show movedBy [] ((divideSegments true (path ++ more)).map Step.ofSegment) = _
    rw [divided more noSlash, List.map_append, movedBy, List.foldl_append]
    rfl

/-- A piece that is not empty enters no empty segment. -/
theorem slashCount_segmentsText_enter {before : List String} {piece : List Char} {segment : String}
    (some : piece ≠ []) (noSlash : '/' ∉ piece)
    (enters : Step.ofSegment piece = .enter segment) :
    slashCount (segmentsText (segment :: before).reverse) = 0 := by
  have slashless := IsSlashless.of_ofSegment noSlash enters
  have notEmpty : segment.toList ≠ [] := by
    obtain ⟨c, rest, rfl⟩ := List.exists_cons_of_ne_nil some
    unfold Step.ofSegment at enters
    split at enters
    · cases enters
    · split at enters
      · cases enters
      · cases enters
        rw [String.toList_ofList, Percent.encodeChars, List.flatMap_cons]
        exact List.append_ne_nil_of_left_ne_nil (Percent.encodeChar_ne_nil _ c) _
  apply slashCount_eq_zero
  rintro c isLast rfl
  rw [segmentsText_reverse_cons, String.toList_append, String.toList_append,
    List.getLast?_append_of_ne_nil _ (List.append_ne_nil_of_right_ne_nil _ notEmpty),
    List.getLast?_append_of_ne_nil _ notEmpty] at isLast
  exact slashless (List.mem_of_getLast? isLast)

/-- After a piece that is not empty a path has entered what it reaches, or that has a slash more. -/
theorem withoutSlashes_finish_iff {before : List String} {piece : List Char} (some : piece ≠ [])
    (noSlash : '/' ∉ piece) :
    withoutSlashes (segmentsText ((Step.ofSegment piece).finish before).reverse) =
        segmentsText ((Step.ofSegment piece).move before).reverse ↔
      slashCount (segmentsText ((Step.ofSegment piece).finish before).reverse) ≤ 1 := by
  have moved (entered : List String) :
      withoutSlashes (segmentsText ("" :: entered).reverse) = segmentsText entered.reverse ↔
        slashCount (segmentsText ("" :: entered).reverse) ≤ 1 := by
    rw [segmentsText_reverse_cons_empty]
    exact withoutSlashes_append_slashes_eq_iff (Nat.le_refl 1) fun less => absurd less (by decide)
  cases step : Step.ofSegment piece with
  | stay => exact moved before
  | back => exact moved (before.drop 1)
  | enter segment =>
      have none : slashCount (segmentsText (segment :: before).reverse) = 0 :=
        slashCount_segmentsText_enter some noSlash step
      exact iff_of_true ((withoutSlashes_eq_self_iff _).2 none)
        (Nat.le_trans (Nat.le_of_eq none) (Nat.zero_le 1))

/-- With blanks behind it a piece enters more than it reaches alone. -/
theorem length_finish_lt (before : List String) (piece : List Char) {blanks : List Char}
    (some : blanks ≠ []) (areBlanks : ∀ c ∈ blanks, c.toNat ≤ 0x20) :
    (segmentsText ((Step.ofSegment piece).finish before).reverse).length <
      (segmentsText ((Step.ofSegment (piece ++ blanks)).move before).reverse).length := by
  have atMost := length_finish_le before piece
  have written : (Percent.encodeChars segmentKeeps piece).length <
      (Percent.encodeChars segmentKeeps (piece ++ blanks)).length := by
    obtain ⟨blank, others, rfl⟩ := List.exists_cons_of_ne_nil some
    have oneWritten := List.length_pos_iff.2 (Percent.encodeChar_ne_nil segmentKeeps blank)
    rw [Percent.encodeChars, Percent.encodeChars, List.flatMap_append, List.length_append,
      List.flatMap_cons, List.length_append]
    omega
  rw [Step.ofSegment_append_blanks piece some areBlanks]
  show _ < (segmentsText (String.ofList _ :: before).reverse).length
  rw [segmentsText_reverse_cons, String.length_append, String.length_append, String.length_ofList,
    String.length_ofList, ← Nat.add_assoc]
  exact Nat.lt_of_le_of_lt atMost (Nat.add_lt_add_left written _)

theorem length_withoutSlashes_le (text : String) : (withoutSlashes text).length ≤ text.length := by
  conv_rhs => rw [← withoutSlashes_append text, String.length_append]
  exact Nat.le_add_right _ _

theorem isSlash_of_blank {c : Char} (blank : c.toNat ≤ 0x20) : isSlash true c = false := by
  have notSlash : c ≠ '/' ∧ c ≠ '\\' := by
    constructor
    all_goals
      rintro rfl
      exact absurd blank (by decide)
  simp [isSlash, notSlash]

/-- With blanks behind it a path has entered all of what it reaches alone, but for slashes at the
end, exactly if there are no blanks, no slash at the end and no more than one of what it reaches. -/
theorem withoutSlashes_readPath_iff {path blanks : List Char}
    (starts : StartsPath true (path ++ blanks)) (areBlanks : ∀ c ∈ blanks, c.toNat ≤ 0x20) :
    withoutSlashes (segmentsText (readPath true path)) =
        segmentsText (enteredBy (path ++ blanks)).reverse ↔
      (blanks = [] ∧ ∀ c ∈ path.getLast?, isSlash true c = false) ∧
        slashCount (segmentsText (readPath true path)) ≤ 1 := by
  have noSlash : ∀ c ∈ blanks, isSlash true c = false := fun c charIn =>
    isSlash_of_blank (areBlanks c charIn)
  cases path with
  | nil =>
      cases blanks with
      | nil => exact iff_of_true (by decide) ⟨⟨rfl, nofun⟩, by decide⟩
      | cons blank blanks =>
          have slash := starts blank rfl
          rw [noSlash blank List.mem_cons_self] at slash
          cases slash
  | cons c path =>
      obtain ⟨before, piece, pieceIs, pieceFree, read, entered⟩ :=
        exists_last_step (starts c rfl) path
      rw [read, entered blanks noSlash]
      by_cases noBlanks : blanks = []
      · subst noBlanks
        rw [List.append_nil, ← pieceIs]
        by_cases nothing : piece = []
        · refine iff_of_false (fun same => ?_) fun both => both.1.2 nothing
          -- An empty segment is entered, and its slash is not one of those that are left out.
          have slashless := slashCount_withoutSlashes (segmentsText
            ((Step.ofSegment piece).finish before).reverse)
          rw [same, nothing] at slashless
          change slashCount (segmentsText ("" :: before).reverse) = 0 at slashless
          rw [segmentsText_reverse_cons_empty, slashCount_append_slashes] at slashless
          cases slashless
        · rw [withoutSlashes_finish_iff nothing pieceFree]
          simp only [nothing, true_and, ne_eq, not_false_eq_true]
      · -- The piece and the blanks are one segment, which is longer than what the piece leads to.
        have longer := length_finish_lt before piece noBlanks areBlanks
        refine iff_of_false (fun same => ?_) fun both => noBlanks both.1.1
        rw [← same] at longer
        exact Nat.not_lt_of_le (length_withoutSlashes_le _) longer

end BillingClient.Url
