import BillingClient.Client.Request
import BillingClient.Proofs.Text.Form
import BillingClient.Proofs.Text.Slash
import BillingClient.Url.Path
import BillingClient.Url.Query

/-!
Contract: paths that are put together and read again.

Division at slashes turns a joined path into its parts, and the walk over the steps of a path
goes on from where a first part of the path leads. A segment that is written by
`Form.encodeSegment` is entered, unless its text is `.` or `..`: `Step.ofSegment_encodeSegment`.
-/

namespace BillingClient

open BillingClient.Text

/-! ## Division -/

namespace Url

/-- A slash of either kind divides a path. -/
theorem divideSegments_append_of_isSlash (isSpecial : Bool) {c : Char}
    (slash : isSlash isSpecial c = true) (left right : List Char) :
    divideSegments isSpecial (left ++ c :: right) =
      divideSegments isSpecial left ++ divideSegments isSpecial right := by
  unfold divideSegments
  rw [List.map_append, List.map_cons, if_pos slash, Form.splitAt_append_cons]

theorem divideSegments_append (isSpecial : Bool) (left right : List Char) :
    divideSegments isSpecial (left ++ '/' :: right) =
      divideSegments isSpecial left ++ divideSegments isSpecial right :=
  divideSegments_append_of_isSlash isSpecial rfl left right

theorem divideSegments_of_no_slash (isSpecial : Bool) {text : List Char}
    (noSlash : ∀ c ∈ text, isSlash isSpecial c = false) :
    divideSegments isSpecial text = [text] := by
  have same : (text.map fun c => if isSlash isSpecial c then '/' else c) = text := by
    refine (List.map_congr_left fun c charIn => ?_).trans (List.map_id text)
    rw [noSlash c charIn]
    rfl
  unfold divideSegments
  rw [same, Form.splitAt_of_not_mem]
  intro slashIn
  have isSlash := noSlash '/' slashIn
  simp [Url.isSlash] at isSlash

theorem divideSegments_replicate (count : Nat) :
    divideSegments true (List.replicate count '/') = List.replicate (count + 1) [] := by
  induction count with
  | zero => rfl
  | succ count inductionHypothesis =>
      have divided := divideSegments_append true [] (List.replicate count '/')
      rw [List.nil_append, inductionHypothesis] at divided
      rw [List.replicate_succ, divided]
      rfl

/-! ## Walks -/

/-- The segments that steps enter, the last first, after segments entered before. -/
def movedBy (entered : List String) (steps : List Step) : List String :=
  steps.foldl Step.move entered

/-- A walk goes on from where its first steps lead. -/
theorem walk_append (entered : List String) (first : List Step) {last : List Step}
    (goesOn : last ≠ []) : walk entered (first ++ last) = walk (movedBy entered first) last := by
  induction first generalizing entered with
  | nil => rfl
  | cons step first inductionHypothesis =>
      have more : first ++ last ≠ [] := List.append_ne_nil_of_right_ne_nil first goesOn
      obtain ⟨next, rest, shape⟩ := List.exists_cons_of_ne_nil more
      rw [List.cons_append, shape, walk, ← shape, inductionHypothesis]
      · rfl
      · intro nothing
        cases nothing

theorem movedBy_enter (entered : List String) (segments : List String) :
    movedBy entered (segments.map .enter) = segments.reverse ++ entered := by
  induction segments generalizing entered with
  | nil => rfl
  | cons segment segments inductionHypothesis =>
      show movedBy (segment :: entered) (segments.map .enter) = _
      rw [inductionHypothesis, List.reverse_cons, List.append_assoc, List.singleton_append]

theorem walk_enter (entered : List String) {segments : List String} (some : segments ≠ []) :
    walk entered (segments.map .enter) = entered.reverse ++ segments := by
  obtain ⟨front, last, rfl⟩ := (List.eq_nil_or_concat' segments).resolve_left some
  rw [List.map_append, List.map_singleton, walk_append _ _ (List.cons_ne_nil _ _), movedBy_enter]
  show (last :: (front.reverse ++ entered)).reverse = _
  rw [List.reverse_cons, List.reverse_append, List.reverse_reverse, List.append_assoc]

/-! ## Texts of paths -/

/-- Whether a text has no slash. -/
def IsSlashless (text : String) : Prop :=
  '/' ∉ text.toList

/-- The texts after the slashes of the path of a URL. -/
def pieces (url : Url) : List String :=
  ((Form.splitAt '/' url.pathText.toList).drop 1).map String.ofList

theorem segmentsText_append (first second : List String) :
    segmentsText (first ++ second) = segmentsText first ++ segmentsText second := by
  unfold segmentsText
  induction first with
  | nil => simp
  | cons segment first inductionHypothesis => simp_all [String.append_assoc]

theorem segmentsText_replicate (count : Nat) :
    segmentsText (List.replicate count "") = slashes count := by
  unfold segmentsText
  induction count with
  | zero => rfl
  | succ count inductionHypothesis =>
      rw [List.replicate_succ, List.map_cons, String.join_cons, inductionHypothesis,
        ← String.toList_inj, String.toList_append]
      unfold slashes
      rw [String.toList_ofList, String.toList_ofList, List.replicate_succ]
      rfl

theorem splitAt_segmentsText {segments : List String}
    (slashless : ∀ segment ∈ segments, IsSlashless segment) :
    Form.splitAt '/' (segmentsText segments).toList = [] :: segments.map String.toList := by
  unfold segmentsText
  induction segments with
  | nil => rfl
  | cons segment segments inductionHypothesis =>
      rw [List.forall_mem_cons] at slashless
      obtain ⟨here, others⟩ := slashless
      rw [List.map_cons, String.join_cons, String.toList_append, String.toList_append]
      show [] :: Form.splitAt '/' (segment.toList ++ _) = _
      rw [Form.splitAt_append_of_not_mem '/' here (inductionHypothesis others), List.append_nil,
        List.map_cons]

/-- The path of a URL with a server divides into its segments. -/
theorem pieces_eq {scheme : String} {authority : Authority} {segments : List String}
    {query fragment : Option String} (slashless : ∀ segment ∈ segments, IsSlashless segment) :
    pieces ⟨scheme, some authority, .segments segments, query, fragment⟩ = segments := by
  unfold pieces
  show ((Form.splitAt '/' (segmentsText segments).toList).drop 1).map String.ofList = _
  rw [splitAt_segmentsText slashless]
  simp

theorem pieces_appendPairs (url : Url) (pairs : List (String × String)) :
    (url.appendPairs pairs).pieces = url.pieces :=
  rfl

theorem pieces_withoutUser (url : Url) : url.withoutUser.pieces = url.pieces := by
  obtain ⟨scheme, authority, path, query, fragment⟩ := url
  cases authority <;> rfl

/-- A piece between slashes enters no slash. -/
theorem IsSlashless.of_ofSegment {piece : List Char} {segment : String}
    (noSlash : '/' ∉ piece) (enters : Step.ofSegment piece = .enter segment) :
    IsSlashless segment := by
  unfold Step.ofSegment at enters
  split at enters
  · cases enters
  · split at enters
    · cases enters
    · cases enters
      intro slashIn
      rw [String.toList_ofList] at slashIn
      obtain ⟨_, ⟨slashIn, _⟩ | percent | ⟨value, small, digit⟩⟩ :=
        Percent.kept_of_mem_encodeChars slashIn
      · exact noSlash slashIn
      · contradiction
      · have plain := isPlain_upperHexDigit small
        rw [← digit] at plain
        exact absurd plain (by decide)

/-- What holds of segments entered before and of those that steps enter holds of all that are
entered then. -/
theorem forall_mem_movedBy {holds : String → Prop} {entered : List String} {steps : List Step}
    (before : ∀ segment ∈ entered, holds segment)
    (enters : ∀ segment, Step.enter segment ∈ steps → holds segment) :
    ∀ segment ∈ movedBy entered steps, holds segment := by
  induction steps generalizing entered with
  | nil => exact before
  | cons step steps inductionHypothesis =>
      apply inductionHypothesis
      · cases step with
        | stay => exact before
        | back => exact fun segment segmentIn => before segment (List.mem_of_mem_drop segmentIn)
        | enter first =>
            show ∀ segment ∈ first :: entered, holds segment
            rw [List.forall_mem_cons]
            exact ⟨enters first List.mem_cons_self, before⟩
      · exact fun segment later => enters segment (List.mem_cons_of_mem _ later)

/-- Steps between slashes enter no slash. -/
theorem slashless_movedBy {isSpecial : Bool} {text : List Char} :
    ∀ segment ∈ movedBy [] ((divideSegments isSpecial text).map Step.ofSegment),
      IsSlashless segment := by
  apply forall_mem_movedBy
  · intro segment segmentIn
    cases segmentIn
  · intro segment entersSegment
    obtain ⟨piece, pieceIn, enters⟩ := List.mem_map.1 entersSegment
    exact IsSlashless.of_ofSegment (Form.not_mem_of_mem_splitAt '/' pieceIn) enters

/-! ## Segments that are written for a text -/

theorem plainDots_cons {c : Char} (notPercent : c ≠ '%') (rest : List Char) :
    plainDots (c :: rest) = c :: plainDots rest := by
  rw [plainDots]
  · rintro _ rfl
    contradiction
  · rintro _ rfl
    contradiction

theorem upperHexDigit_ne_percent {value : Nat} (small : value < 16) : upperHexDigit value ≠ '%' := by
  have every : ∀ value < 16, upperHexDigit value ≠ '%' := by decide
  exact every value small

/-- Only the byte of a dot is escaped as one. -/
theorem plainDots_escape {byte : UInt8} (notDot : byte ≠ 0x2E) (rest : List Char) :
    plainDots (Percent.escape byte ++ rest) = Percent.escape byte ++ plainDots rest := by
  have bound : byte.toNat < 256 := byte.toNat_lt_size
  have highSmall : byte.toNat / 16 < 16 := by omega
  have lowSmall : byte.toNat % 16 < 16 := by omega
  have high : ∀ value < 16, upperHexDigit value = '2' → value = 2 := by decide
  have lowUpper : ∀ value < 16, upperHexDigit value = 'E' → value = 14 := by decide
  have lowLower : ∀ value < 16, upperHexDigit value ≠ 'e' := by decide
  have code : byte.toNat ≠ 0x2E := fun same => notDot (UInt8.toNat_inj.1 same)
  show plainDots ('%' :: upperHexDigit _ :: upperHexDigit _ :: rest) =
    '%' :: upperHexDigit _ :: upperHexDigit _ :: plainDots rest
  rw [plainDots]
  · rw [plainDots_cons (upperHexDigit_ne_percent highSmall),
      plainDots_cons (upperHexDigit_ne_percent lowSmall)]
  · intro _ _ same
    simp only [List.cons.injEq] at same
    exact lowLower _ lowSmall same.2.1
  · intro _ _ same
    simp only [List.cons.injEq] at same
    have highIs := high _ highSmall same.1
    have lowIs := lowUpper _ lowSmall same.2.1
    omega

/-- A written character leaves dots as they are, where `.` is kept. -/
theorem plainDots_encodeChar {keeps : Char → Bool} (notKept : keeps '%' = false)
    (dotKept : keeps '.' = true) (c : Char) (rest : List Char) :
    plainDots (Percent.encodeChar keeps c ++ rest) =
      Percent.encodeChar keeps c ++ plainDots rest := by
  unfold Percent.encodeChar
  by_cases kept : (c.toNat < 0x80 && keeps c) = true
  · have notPercent : c ≠ '%' := by
      rintro rfl
      rw [notKept, Bool.and_false] at kept
      contradiction
    rw [if_pos kept, List.singleton_append, plainDots_cons notPercent, List.singleton_append]
  · rw [if_neg kept]
    -- A dot is kept, so it is not among the bytes that are escaped.
    have notDot : ∀ byte ∈ String.utf8EncodeChar c, byte ≠ 0x2E := by
      rintro byte byteIn rfl
      by_cases ascii : c.toNat < 0x80
      · rw [utf8EncodeChar_of_lt ascii, List.mem_singleton] at byteIn
        have code := Percent.ofNat_toNat_of_lt ascii
        rw [← byteIn] at code
        subst code
        apply kept
        rw [Bool.and_eq_true]
        exact ⟨by decide, dotKept⟩
      · have beyond := le_of_mem_utf8EncodeChar (Nat.le_of_not_lt ascii) byteIn
        contradiction
    generalize String.utf8EncodeChar c = bytes at notDot
    induction bytes with
    | nil => rfl
    | cons byte bytes inductionHypothesis =>
        rw [List.forall_mem_cons] at notDot
        rw [List.flatMap_cons, List.append_assoc, plainDots_escape notDot.1,
          inductionHypothesis notDot.2, List.append_assoc]

theorem plainDots_encodeSegment (text : String) :
    plainDots (Form.encodeSegment text).toList = (Form.encodeSegment text).toList := by
  rw [Form.encodeSegment_eq, Percent.encode, String.toList_ofList]
  unfold Percent.encodeChars
  induction text.toList with
  | nil => rfl
  | cons c rest inductionHypothesis =>
      rw [List.flatMap_cons, plainDots_encodeChar (by decide) (by decide), inductionHypothesis]

theorem encodeSegment_toList_eq_iff (text other : String)
    (plain : Form.isPlainText other = true) :
    (Form.encodeSegment text).toList = other.toList ↔ text = other := by
  rw [String.toList_inj]
  constructor
  · intro same
    apply Form.encodeSegment_inj
    rw [same, Form.encodeSegment_eq_self plain]
  · rintro rfl
    exact Form.encodeSegment_eq_self plain

/-- A path keeps plain characters and `%`. -/
theorem segmentKeeps_of_isPlain {c : Char} (ascii : c.toNat < 0x80)
    (plain : Form.isPlain c = true ∨ c = '%') : segmentKeeps c = true :=
  forall_ascii (fun c => Form.isPlain c = true ∨ c = '%' → segmentKeeps c = true) (by decide) ascii
    plain

theorem encodeChars_encodeSegment (text : String) :
    Percent.encodeChars segmentKeeps (Form.encodeSegment text).toList =
      (Form.encodeSegment text).toList := by
  apply Percent.encodeChars_eq_self
  intro c charIn
  obtain ⟨ascii, plain⟩ := Form.isPlain_or_of_mem_encodeSegment charIn
  exact ⟨ascii, segmentKeeps_of_isPlain ascii plain⟩

/-- The step of a written segment. -/
theorem Step.ofSegment_encodeSegment (text : String) :
    Step.ofSegment (Form.encodeSegment text).toList =
      if text = "." then .stay
      else if text = ".." then .back
      else .enter (Form.encodeSegment text) := by
  have dot : (Form.encodeSegment text).toList = ['.'] ↔ text = "." :=
    encodeSegment_toList_eq_iff text "." (by decide)
  have dots : (Form.encodeSegment text).toList = ['.', '.'] ↔ text = ".." :=
    encodeSegment_toList_eq_iff text ".." (by decide)
  unfold ofSegment
  rw [plainDots_encodeSegment, encodeChars_encodeSegment, String.ofList_toList]
  simp only [dot, dots]

/-! ## Joined paths -/

theorem toList_segments (list : List String) :
    (Client.Request.segments list).toList =
      list.flatMap fun segment => '/' :: (Form.encodeSegment segment).toList := by
  unfold Client.Request.segments
  induction list with
  | nil => rfl
  | cons segment rest inductionHypothesis =>
      rw [List.map_cons, String.join_cons, String.toList_append, String.toList_append,
        inductionHypothesis, List.flatMap_cons]
      rfl

theorem isSlash_of_mem_encodeSegment (isSpecial : Bool) {text : String} {c : Char}
    (charIn : c ∈ (Form.encodeSegment text).toList) : isSlash isSpecial c = false := by
  obtain ⟨_, plain⟩ := Form.isPlain_or_of_mem_encodeSegment charIn
  have notSlash : c ≠ '/' ∧ c ≠ '\\' := by
    constructor
    all_goals
      rintro rfl
      revert plain
      decide
  unfold isSlash
  simp [notSlash]

theorem isSlashless_encodeSegment (text : String) : IsSlashless (Form.encodeSegment text) := by
  intro slashIn
  have noSlash := isSlash_of_mem_encodeSegment false slashIn
  exact absurd noSlash (by decide)

/-- A joined path divides into its segments. -/
theorem divideSegments_segments (isSpecial : Bool) (first : String) (rest : List String) :
    divideSegments isSpecial
        ((Form.encodeSegment first).toList ++ (Client.Request.segments rest).toList) =
      (first :: rest).map fun segment => (Form.encodeSegment segment).toList := by
  have alone (text : String) : divideSegments isSpecial (Form.encodeSegment text).toList =
      [(Form.encodeSegment text).toList] :=
    divideSegments_of_no_slash isSpecial fun _ => isSlash_of_mem_encodeSegment isSpecial
  rw [toList_segments]
  induction rest generalizing first with
  | nil => rw [List.flatMap_nil, List.append_nil, alone, List.map_singleton]
  | cons second rest inductionHypothesis =>
      rw [List.flatMap_cons, List.cons_append, divideSegments_append, alone, inductionHypothesis]
      rfl

/-- Whether a text is its own segment, and is entered. -/
structure IsFixedSegment (text : String) : Prop where
  plain : Form.isPlainText text = true
  notDot : text ≠ "."
  notDots : text ≠ ".."

instance (text : String) : Decidable (IsFixedSegment text) :=
  decidable_of_iff (Form.isPlainText text = true ∧ text ≠ "." ∧ text ≠ "..")
    ⟨fun ⟨plain, notDot, notDots⟩ => ⟨plain, notDot, notDots⟩,
      fun fixed => ⟨fixed.plain, fixed.notDot, fixed.notDots⟩⟩

theorem IsFixedSegment.isSlashless {text : String} (fixed : IsFixedSegment text) :
    IsSlashless text := by
  rw [← Form.encodeSegment_eq_self fixed.plain]
  exact isSlashless_encodeSegment text

theorem IsFixedSegment.step {text : String} (fixed : IsFixedSegment text) :
    Step.ofSegment (Form.encodeSegment text).toList = .enter text := by
  rw [Step.ofSegment_encodeSegment, if_neg fixed.notDot, if_neg fixed.notDots,
    Form.encodeSegment_eq_self fixed.plain]

/-- The segments that the segment of a text leads to, after other segments. -/
def reached (front : List String) (text : String) : List String :=
  if text = "." then front ++ [""]
  else if text = ".." then front.dropLast ++ [""]
  else front ++ [Form.encodeSegment text]

theorem isSlashless_of_mem_reached {front : List String} {text segment : String}
    (slashless : ∀ segment ∈ front, IsSlashless segment)
    (segmentIn : segment ∈ reached front text) : IsSlashless segment := by
  have cases : segment ∈ front ∨ segment = "" ∨ segment = Form.encodeSegment text := by
    unfold reached at segmentIn
    split at segmentIn
    · rw [List.mem_append, List.mem_singleton] at segmentIn
      exact segmentIn.imp_right .inl
    · split at segmentIn
      · rw [List.mem_append, List.mem_singleton] at segmentIn
        exact segmentIn.imp (fun dropped => (List.dropLast_sublist _).subset dropped) .inl
      · rw [List.mem_append, List.mem_singleton] at segmentIn
        exact segmentIn.imp_right .inr
  rcases cases with inFront | rfl | rfl
  · exact slashless segment inFront
  · exact List.not_mem_nil
  · exact isSlashless_encodeSegment text

/-- A walk over fixed segments and the segment of a text. -/
theorem walk_segments (entered : List String) {fixed : List String} (text : String)
    (areFixed : ∀ segment ∈ fixed, IsFixedSegment segment) :
    walk entered (((fixed ++ [text]).map fun segment =>
        (Form.encodeSegment segment).toList).map Step.ofSegment) =
      reached (entered.reverse ++ fixed) text := by
  have enters : (fixed.map fun segment => (Form.encodeSegment segment).toList).map Step.ofSegment =
      fixed.map .enter := by
    rw [List.map_map]
    apply List.map_congr_left
    intro segment segmentIn
    rw [Function.comp_apply, (areFixed segment segmentIn).step]
  have whole : fixed.reverse ++ entered = (entered.reverse ++ fixed).reverse := by
    rw [List.reverse_append, List.reverse_reverse]
  -- After the fixed segments only the step of the text is left.
  rw [List.map_append, List.map_append, enters, List.map_singleton, List.map_singleton,
    walk_append _ _ (List.cons_ne_nil _ _), movedBy_enter, walk, Step.ofSegment_encodeSegment, whole]
  unfold reached
  split
  · show ("" :: (entered.reverse ++ fixed).reverse).reverse = _
    rw [List.reverse_cons, List.reverse_reverse]
  · split
    · show ("" :: (entered.reverse ++ fixed).reverse.drop 1).reverse = _
      rw [List.reverse_cons, List.drop_one, List.tail_reverse, List.reverse_reverse]
    · show (Form.encodeSegment text :: (entered.reverse ++ fixed).reverse).reverse = _
      rw [List.reverse_cons, List.reverse_reverse]

end Url

end BillingClient
