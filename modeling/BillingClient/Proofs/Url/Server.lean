import BillingClient.Http.Redirect
import BillingClient.Proofs.Url.Authority
import BillingClient.Proofs.Url.Path
import Mathlib.Data.List.Basic
import Mathlib.Data.List.TakeWhile

/-!
Contract: the URL of a server, and a path after it.

Slashes at the end of a web address belong to its path, so another path may be put in their
place: it is walked from where the path of the address leads. Main statement:
`parse_server_path`.
-/

namespace BillingClient

open BillingClient.Text

/-! ## Ends of texts -/

theorem Text.trimBoth_eq_self {inClass : Char → Bool} {text : List Char}
    (first : ∀ c ∈ text.head?, inClass c = false) (last : ∀ c ∈ text.getLast?, inClass c = false) :
    trimBoth inClass text = text := by
  have keeps {list : List Char} (outside : ∀ c ∈ list.head?, inClass c = false) :
      list.dropWhile inClass = list := by
    cases list with
    | nil => rfl
    | cons c rest => rw [List.dropWhile_cons_of_neg (by simp [outside c rfl])]
  unfold trimBoth
  rw [keeps first, keeps (by rwa [List.head?_reverse]), List.reverse_reverse]

theorem Text.trimBoth_append_left {inClass : Char → Bool} {front : List Char}
    (inside : ∀ c ∈ front, inClass c = true) (text : List Char) :
    trimBoth inClass (front ++ text) = trimBoth inClass text := by
  unfold trimBoth
  rw [List.dropWhile_append_of_pos inside]

theorem Text.trimBoth_append_right {inClass : Char → Bool} {back : List Char}
    (inside : ∀ c ∈ back, inClass c = true) (text : List Char) :
    trimBoth inClass (text ++ back) = trimBoth inClass text := by
  unfold trimBoth
  rw [List.dropWhile_append]
  split
  · rename_i isEmpty
    rw [List.isEmpty_iff.1 isEmpty, List.dropWhile_eq_nil_iff.2 inside]
  · rw [List.reverse_append, List.dropWhile_append_of_pos]
    intro c charIn
    exact inside c (List.mem_reverse.1 charIn)

/-- A text is what is left of it between characters of the class. -/
theorem Text.exists_eq_trimBoth (inClass : Char → Bool) (text : List Char) : ∃ front back,
    text = front ++ trimBoth inClass text ++ back ∧ (∀ c ∈ front, inClass c = true) ∧
      ∀ c ∈ back, inClass c = true := by
  let kept := text.dropWhile inClass
  refine ⟨text.takeWhile inClass, (kept.reverse.takeWhile inClass).reverse, ?_, ?_, ?_⟩
  · have whole : kept = trimBoth inClass text ++ (kept.reverse.takeWhile inClass).reverse := by
      unfold trimBoth
      rw [← List.reverse_append, List.takeWhile_append_dropWhile, List.reverse_reverse]
    rw [List.append_assoc, ← whole, List.takeWhile_append_dropWhile]
  · exact fun c => List.mem_takeWhile_imp
  · exact fun c charIn => List.mem_takeWhile_imp (List.mem_reverse.1 charIn)

/-- What is trimmed by a smaller class before is trimmed all the same. -/
theorem Text.trimBoth_trimBoth {inClass inner : Char → Bool}
    (smaller : ∀ c, inner c = true → inClass c = true) (text : List Char) :
    trimBoth inClass (trimBoth inner text) = trimBoth inClass text := by
  obtain ⟨front, back, whole, inFront, inBack⟩ := exists_eq_trimBoth inner text
  conv_rhs => rw [whole, trimBoth_append_right fun c charIn => smaller c (inBack c charIn),
    trimBoth_append_left fun c charIn => smaller c (inFront c charIn)]

/-- Copies of a character at the end of a text lie behind a front that ends otherwise. -/
theorem Text.exists_of_append_replicate {text front back : List Char} {count : Nat} {c : Char}
    (same : text ++ List.replicate count c = front ++ back)
    (endsOtherwise : ∀ last ∈ front.getLast?, last ≠ c) :
    ∃ rest, back = rest ++ List.replicate count c ∧ text = front ++ rest := by
  rcases List.append_eq_append_iff.1 same with ⟨between, frontIs, copies⟩ | ⟨rest, textIs, backIs⟩
  · by_cases nothing : between = []
    · subst nothing
      exact ⟨[], copies.symm, by rw [frontIs, List.append_nil, List.append_nil]⟩
    · have lastIs := List.getLast?_eq_some_getLast nothing
      have isCopy : between.getLast nothing ∈ List.replicate count c := by
        rw [copies]
        exact List.mem_append_left _ (List.mem_of_getLast? lastIs)
      refine absurd (List.eq_of_mem_replicate isCopy) (endsOtherwise _ ?_)
      rw [frontIs, List.getLast?_append, lastIs]
      rfl
  · exact ⟨rest, backIs, textIs⟩

namespace Url

/-! ## Parts -/

theorem divideOnce_of_not_mem {mark : Char} {text : List Char} (absent : mark ∉ text) :
    divideOnce mark text = (text, none) := by
  have nothing : text.dropWhile (· ≠ mark) = [] := by
    rw [List.dropWhile_eq_nil_iff]
    intro c charIn
    simpa using fun same : c = mark => absent (same ▸ charIn)
  unfold divideOnce
  rw [nothing]

/-- Whether a character stays in a URL wherever it stands. -/
def isInner (c : Char) : Bool :=
  ['\t', '\n', '\r'].all (· != c)

theorem isInner_of_le {c : Char} (noControl : 0x20 ≤ c.toNat) : isInner c = true := by
  unfold isInner
  rw [List.all_eq_true]
  intro blank blankIn
  rw [bne_iff_ne]
  rintro rfl
  simp only [List.mem_cons, List.not_mem_nil, or_false] at blankIn
  rcases blankIn with rfl | rfl | rfl
  all_goals contradiction

theorem filter_isInner {text : List Char} (visible : ∀ c ∈ text, 0x20 < c.toNat) :
    text.filter isInner = text := by
  rw [List.filter_eq_self]
  exact fun c charIn => isInner_of_le (Nat.le_of_lt (visible c charIn))

/-- Whether a text has no blanks at its ends, and neither `?` nor `#`. -/
structure IsPlainText (text : List Char) : Prop where
  first : ∀ c ∈ text.head?, 0x20 < c.toNat
  last : ∀ c ∈ text.getLast?, 0x20 < c.toNat
  noQuery : '?' ∉ text
  noFragment : '#' ∉ text

/-- A plain text is all hierarchy. -/
theorem IsPlainText.parts {text : List Char} (plain : IsPlainText text) :
    Parts.ofText (String.ofList text) = ⟨text.filter isInner, none, none⟩ := by
  have cleaned : clean (String.ofList text) = text.filter isInner := by
    unfold clean
    rw [String.toList_ofList, trimBoth_eq_self]
    · rfl
    · intro c charIn
      simpa using plain.first c charIn
    · intro c charIn
      simpa using plain.last c charIn
  unfold Parts.ofText
  rw [cleaned, divideOnce_of_not_mem fun charIn => plain.noFragment (List.mem_filter.1 charIn).1]
  dsimp only
  rw [divideOnce_of_not_mem fun charIn => plain.noQuery (List.mem_filter.1 charIn).1]

/-- Whether every character of a text may stand in a path as it is. -/
def IsPathText (path : List Char) : Prop :=
  ∀ c ∈ path, 0x20 < c.toNat ∧ c ≠ '?' ∧ c ≠ '#'

/-- Slashes at the end of a plain text may be replaced by a path. -/
theorem IsPlainText.path {base path : List Char} {count : Nat}
    (plain : IsPlainText (base ++ List.replicate count '/')) (isPath : IsPathText path) :
    IsPlainText (base ++ '/' :: path) := by
  have without (mark : Char) (absent : mark ∉ base ++ List.replicate count '/')
      (notSlash : mark ≠ '/') (notPath : ∀ c ∈ path, c ≠ mark) : mark ∉ base ++ '/' :: path := by
    intro charIn
    rcases List.mem_append.1 charIn with inBase | inPath
    · exact absent (List.mem_append_left _ inBase)
    · rcases List.mem_cons.1 inPath with rfl | inPath
      · exact notSlash rfl
      · exact notPath mark inPath rfl
  constructor
  · cases base with
    | nil =>
        rintro c ⟨⟩
        decide
    | cons c base => exact plain.first
  · intro c isLast
    rw [List.getLast?_append_of_ne_nil _ (List.cons_ne_nil _ _)] at isLast
    rcases List.mem_cons.1 (List.mem_of_getLast? isLast) with rfl | charIn
    · decide
    · exact (isPath c charIn).1
  · exact without '?' plain.noQuery (by decide) fun c charIn => (isPath c charIn).2.1
  · exact without '#' plain.noFragment (by decide) fun c charIn => (isPath c charIn).2.2

/-- A scheme is the name before the first colon. -/
theorem divideScheme?_eq_some_iff (text : List Char) (scheme : String) (rest : List Char) :
    divideScheme? text = some (scheme, rest) ↔
      ∃ name, text = name ++ ':' :: rest ∧ name.head?.any Char.isAlpha = true ∧
        (∀ c ∈ name, isSchemeChar c = true) ∧ scheme = String.ofList (name.map Char.toLower) := by
  constructor
  · intro divided
    unfold divideScheme? at divided
    split at divided
    · rename_i startsAlpha
      split at divided
      · rename_i rest shape
        cases divided
        refine ⟨text.takeWhile isSchemeChar, ?_, ?_, fun _ => List.mem_takeWhile_imp, rfl⟩
        · rw [← shape, List.takeWhile_append_dropWhile]
        · cases text with
          | nil => contradiction
          | cons c rest =>
              have alpha : c.isAlpha = true := by simpa using startsAlpha
              have isChar : isSchemeChar c = true := by simp [isSchemeChar, Char.isAlphanum, alpha]
              rw [List.takeWhile_cons_of_pos isChar]
              exact startsAlpha
      · contradiction
    · contradiction
  · rintro ⟨name, rfl, startsAlpha, areChars, rfl⟩
    have notColon : isSchemeChar ':' = false := by decide
    have head : (name ++ ':' :: rest).head?.any Char.isAlpha = true := by
      cases name with
      | nil => contradiction
      | cons c name => exact startsAlpha
    unfold divideScheme?
    rw [if_pos head, List.dropWhile_append_of_pos areChars, List.takeWhile_append_of_pos areChars,
      List.dropWhile_cons_of_neg (by simp [notColon]),
      List.takeWhile_cons_of_neg (by simp [notColon]), List.append_nil]
    rfl

/-! ## Paths after a server -/

/-- The URL of a server whose path goes on after segments entered before, the last first. -/
def goingOn (scheme : String) (authority : Authority) (entered : List String)
    (path : List Char) : Url :=
  ⟨scheme, some authority,
    .segments (walk entered ((divideSegments true path).map Step.ofSegment)), none, none⟩

/-- The segments that the front of a path has entered, the last first, where a slash follows. -/
def enteredBy : List Char → List String
  | [] => []
  | _ :: front => movedBy [] ((divideSegments true front).map Step.ofSegment)

theorem slashless_enteredBy (front : List Char) :
    ∀ segment ∈ enteredBy front, IsSlashless segment := by
  cases front with
  | nil => exact List.forall_mem_nil _
  | cons c front => exact slashless_movedBy

/-- A path that goes on after a slash is walked from where its front leads. -/
theorem readPath_append {front : List Char} (starts : StartsPath true front) (path : List Char) :
    readPath true (front ++ '/' :: path) =
      walk (enteredBy front) ((divideSegments true path).map Step.ofSegment) := by
  cases front with
  | nil => rfl
  | cons c front =>
      have slash := starts c rfl
      have goesOn : (divideSegments true path).map Step.ofSegment ≠ [] := by
        rw [ne_eq, List.map_eq_nil_iff]
        exact Form.splitAt_ne_nil '/' _
      rw [List.cons_append, readPath, if_pos slash, readSegments, divideSegments_append,
        List.map_append, walk_append _ _ goesOn]
      rfl

theorem server_divided (text : List Char) :
    (∀ c ∈ text.takeWhile (!isSlash true ·), isSlash true c = false) ∧
      StartsPath true (text.dropWhile (!isSlash true ·)) := by
  constructor
  · intro c charIn
    simpa using List.mem_takeWhile_imp charIn
  · intro c isFirst
    have found := List.head?_dropWhile_not (!isSlash true ·) text
    rw [isFirst] at found
    simpa using found

/-- The part of a text before its first slash, and the rest. -/
theorem exists_divided (text : List Char) : ∃ whole path, text = whole ++ path ∧
    (∀ c ∈ whole, isSlash true c = false) ∧ StartsPath true path :=
  ⟨_, _, List.takeWhile_append_dropWhile.symm, server_divided text⟩

/-- Slashes at the end of a text stay behind what is left of it, or go with all of it. -/
theorem exists_dropWhile_replicate (front : List Char) (count : Nat) :
    ∃ ending, StartsPath true ending ∧
      (front ++ List.replicate count '/').dropWhile (isSlash true) =
        front.dropWhile (isSlash true) ++ ending := by
  have slashes : (List.replicate count '/').dropWhile (isSlash true) = [] := by
    rw [List.dropWhile_eq_nil_iff, List.forall_mem_replicate]
    exact .inr rfl
  rw [List.dropWhile_append, slashes]
  split
  · rename_i isEmpty
    refine ⟨[], ?_, ?_⟩
    · intro c isFirst
      cases isFirst
    · rw [List.append_nil, List.isEmpty_iff.1 isEmpty]
  · refine ⟨List.replicate count '/', ?_, rfl⟩
    intro c isFirst
    rw [List.eq_of_mem_replicate (List.mem_of_mem_head? isFirst)]
    rfl

/-- The server at the front of a text keeps its authority under any path that is put after it, in
place of what it ended with. -/
theorem readServer_ending {scheme : String} {port : Nat} {front ending : List Char} {parts : Parts}
    {server : Url} (isWeb : SchemeKind.ofName scheme = .web port)
    (endingStarts : StartsPath true ending)
    (read : readServer scheme (front.dropWhile (isSlash true) ++ ending) parts = .ok server) :
    server.scheme = scheme ∧ ∃ authority first, server.authority = some authority ∧
      ∀ path hierarchy, readServer scheme ((front ++ '/' :: path).dropWhile (isSlash true))
        ⟨hierarchy, none, none⟩ = .ok (goingOn scheme authority (enteredBy first) path) := by
  have special : (SchemeKind.web port).isSpecial = true := rfl
  obtain ⟨whole, first, leftIs, noSlash, starts⟩ := exists_divided (front.dropWhile (isSlash true))
  rw [leftIs, List.append_assoc] at read
  unfold readServer at read
  dsimp only at read
  rw [isWeb] at read
  obtain ⟨⟨authority, rest⟩, authorityRead, read⟩ := exists_of_bind_eq_ok read
  cases read
  have startsWhole := starts.append endingStarts
  obtain ⟨hasServer, other⟩ := readAuthority_path noSlash startsWhole authorityRead
  have own := other (parts.query.isNone && parts.fragment.isNone) _ startsWhole
  cases authorityRead.symm.trans own
  refine ⟨rfl, authority, first, rfl, fun path hierarchy => ?_⟩
  have pathStarts : StartsPath true (first ++ '/' :: path) := by
    refine starts.append ?_
    rintro c ⟨⟩
    rfl
  have pathIs : (front ++ '/' :: path).dropWhile (isSlash true) =
      whole ++ (first ++ '/' :: path) := by
    have notEmpty : (whole ++ first).isEmpty = false := by simp [hasServer]
    rw [List.dropWhile_append, leftIs, notEmpty, if_neg Bool.false_ne_true, List.append_assoc]
  unfold readServer
  dsimp only
  rw [isWeb, pathIs, other _ _ pathStarts, special]
  unfold goingOn
  rw [← readPath_append starts path]
  rfl

/-! ## Web addresses -/

theorem scheme_of_readFile {text : List Char} {parts : Parts} {url : Url}
    (read : readFile text parts = .ok url) : url.scheme = "file" := by
  unfold readFile at read
  dsimp only at read
  split at read
  · split at read
    · cases read
      rfl
    · obtain ⟨_, _, built⟩ := exists_of_bind_eq_ok read
      cases built
      rfl
  · cases read
    rfl

theorem scheme_of_readServer {scheme : String} {text : List Char} {parts : Parts} {url : Url}
    (read : readServer scheme text parts = .ok url) : url.scheme = scheme := by
  unfold readServer at read
  obtain ⟨_, _, built⟩ := exists_of_bind_eq_ok read
  cases built
  rfl

theorem scheme_of_readPlain {scheme : String} {text : List Char} {parts : Parts} {url : Url}
    (read : readPlain scheme text parts = .ok url) : url.scheme = scheme := by
  unfold readPlain at read
  split at read
  · exact scheme_of_readServer read
  · cases read
    rfl
  · cases read
    rfl

theorem kind_of_readScheme {scheme : String} {text : List Char} {parts : Parts} {url : Url}
    (read : readScheme scheme text parts = .ok url) (isWeb : Http.isWebAddress url = true) :
    ∃ port, SchemeKind.ofName scheme = .web port := by
  unfold readScheme at read
  have named : url.scheme = "http" ∨ url.scheme = "https" := by
    simpa [Http.isWebAddress] using isWeb
  split at read
  · rename_i port kind
    exact ⟨port, kind⟩
  · have isFile := scheme_of_readFile read
    simp [isFile] at named
  · have same := scheme_of_readPlain read
    rw [same] at named
    rcases named with rfl | rfl
    · exact ⟨80, rfl⟩
    · exact ⟨443, rfl⟩

/-- A path after a web address is walked from where the path of the address leads, without the
slashes at its end. -/
theorem parse_server_path {base : List Char} {count : Nat} {server : Url}
    (plain : IsPlainText (base ++ List.replicate count '/'))
    (read : parse (String.ofList (base ++ List.replicate count '/')) = .ok server)
    (isWeb : Http.isWebAddress server = true) :
    ∃ authority entered, server.authority = some authority ∧
      (∀ segment ∈ entered, IsSlashless segment) ∧ ∀ path, IsPathText path →
        parse (String.ofList (base ++ '/' :: path)) =
          .ok (goingOn server.scheme authority entered path) := by
  have slashes : (List.replicate count '/').filter isInner = List.replicate count '/' := by
    apply filter_isInner
    rw [List.forall_mem_replicate]
    exact .inr (by decide)
  unfold parse at read
  rw [plain.parts, List.filter_append, slashes] at read
  dsimp only at read
  split at read
  · rename_i scheme rest divided
    obtain ⟨name, whole, startsAlpha, areChars, schemeIs⟩ :=
      (divideScheme?_eq_some_iff _ _ _).1 divided
    -- The colon of the scheme is before the slashes.
    obtain ⟨front, rfl, baseIs⟩ : ∃ front, rest = front ++ List.replicate count '/' ∧
        base.filter isInner = (name ++ [':']) ++ front := by
      refine exists_of_append_replicate (whole.trans ?_) ?_
      · rw [List.append_assoc, List.singleton_append]
      · intro last isLast
        rw [List.getLast?_append] at isLast
        cases isLast
        decide
    obtain ⟨port, kind⟩ := kind_of_readScheme read isWeb
    unfold readScheme at read
    rw [kind] at read
    obtain ⟨ending, endingStarts, readIs⟩ := exists_dropWhile_replicate front count
    rw [readIs] at read
    obtain ⟨sameScheme, authority, first, isAuthority, other⟩ :=
      readServer_ending kind endingStarts read
    refine ⟨authority, enteredBy first, isAuthority, slashless_enteredBy first,
      fun path isPath => ?_⟩
    have inner : ('/' :: path).filter isInner = '/' :: path := by
      apply filter_isInner
      rw [List.forall_mem_cons]
      exact ⟨by decide, fun c charIn => (isPath c charIn).1⟩
    have divides : divideScheme? ((base ++ '/' :: path).filter isInner) =
        some (scheme, front ++ '/' :: path) := by
      rw [List.filter_append, inner, baseIs, divideScheme?_eq_some_iff]
      refine ⟨name, ?_, startsAlpha, areChars, schemeIs⟩
      rw [List.append_assoc, List.append_assoc, List.singleton_append]
    unfold parse
    rw [(plain.path isPath).parts]
    dsimp only
    rw [divides]
    dsimp only
    unfold readScheme
    rw [kind, sameScheme]
    exact other path _
  · contradiction

end Url

end BillingClient
