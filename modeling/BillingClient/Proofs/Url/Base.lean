import BillingClient.Proofs.Url.Server

/-!
Contract: paths after one base, which may have blanks at its ends.

Blanks in front of a base are dropped, and those behind it stand before the path. Where the base
is a web address, and one path after it is part of a URL, every path is, and the URLs differ in
the path alone. Main statement: `parse_base_path`.
-/

namespace BillingClient.Url

open BillingClient.Text

/-! ## Cleaned texts -/

/-- Whether a character is left out at the ends of a text. -/
def isOuter (c : Char) : Bool :=
  c.toNat ≤ 0x20

theorem isOuter_eq_false {c : Char} (visible : 0x20 < c.toNat) : isOuter c = false := by
  unfold isOuter
  rw [decide_eq_false_iff_not]
  exact Nat.not_le_of_lt visible

theorem dropWhile_append_of_head? {outside : Char → Bool} {rest : List Char}
    (stays : ∀ c ∈ rest.head?, outside c = false) (front : List Char) :
    (front ++ rest).dropWhile outside = front.dropWhile outside ++ rest := by
  rw [List.dropWhile_append]
  split
  · rename_i isEmpty
    rw [List.isEmpty_iff.1 isEmpty]
    cases rest with
    | nil => rfl
    | cons c rest => rw [List.dropWhile_cons_of_neg (by simp [stays c rfl]), List.nil_append]
  · rfl

/-- What a base becomes in front of a path. -/
def cleanBase (base : List Char) : List Char :=
  (base.dropWhile isOuter).filter isInner

theorem mem_of_mem_cleanBase {base : List Char} {c : Char} (charIn : c ∈ cleanBase base) :
    c ∈ base :=
  (List.dropWhile_sublist _).subset (List.mem_filter.1 charIn).1

theorem clean_ofList (text : List Char) :
    clean (String.ofList text) = (trimBoth isOuter text).filter isInner := by
  unfold clean
  rw [String.toList_ofList]
  rfl

/-- What is behind a slash stays behind it, and the base stays in front of it. -/
theorem clean_append_slash (base more : List Char) :
    clean (String.ofList (base ++ '/' :: more)) =
      cleanBase base ++ '/' :: (more.reverse.dropWhile isOuter).reverse.filter isInner := by
  have slash (text : List Char) : ∀ c ∈ ('/' :: text).head?, isOuter c = false := by
    rintro c ⟨⟩
    decide
  have trimmed : trimBoth isOuter (base ++ '/' :: more) =
      base.dropWhile isOuter ++ '/' :: (more.reverse.dropWhile isOuter).reverse := by
    unfold trimBoth
    rw [dropWhile_append_of_head? (slash more), List.reverse_append, List.reverse_cons,
      List.append_assoc, List.singleton_append, dropWhile_append_of_head? (slash _),
      List.reverse_append, List.reverse_cons, List.reverse_reverse, List.append_assoc,
      List.singleton_append]
  rw [clean_ofList, trimmed, List.filter_append, List.filter_cons_of_pos (by decide)]
  rfl

theorem clean_append_path (base : List Char) {path : List Char} (isPath : IsPathText path) :
    clean (String.ofList (base ++ '/' :: path)) = cleanBase base ++ '/' :: path := by
  have visible : ∀ c ∈ path, 0x20 < c.toNat := fun c charIn => (isPath c charIn).1
  have last : ∀ c ∈ path.reverse.head?, isOuter c = false := fun c isLast =>
    isOuter_eq_false (visible c (List.mem_reverse.1 (List.mem_of_mem_head? isLast)))
  have kept := dropWhile_append_of_head? last []
  rw [List.nil_append, List.dropWhile_nil, List.nil_append] at kept
  rw [clean_append_slash, kept, List.reverse_reverse, filter_isInner visible]

/-- Slashes behind a base may be dropped with the blanks around them, but nothing else changes. -/
theorem clean_isPrefix (base : List Char) (count : Nat) :
    clean (String.ofList (base ++ List.replicate count '/')) <+:
      cleanBase base ++ List.replicate count '/' := by
  have slashes : ∀ c ∈ List.replicate count '/', 0x20 < c.toNat := by
    rw [List.forall_mem_replicate]
    exact .inr (by decide)
  have first : ∀ c ∈ (List.replicate count '/').head?, isOuter c = false := fun c isFirst =>
    isOuter_eq_false (slashes c (List.mem_of_mem_head? isFirst))
  have trimmed : trimBoth isOuter (base ++ List.replicate count '/') <+:
      base.dropWhile isOuter ++ List.replicate count '/' := by
    unfold trimBoth
    rw [dropWhile_append_of_head? first, ← List.reverse_suffix, List.reverse_reverse]
    exact List.dropWhile_suffix _
  unfold cleanBase
  rw [clean_ofList, ← filter_isInner slashes, ← List.filter_append, filter_isInner slashes]
  exact trimmed.filter isInner

/-- A text with neither `?` nor `#` is all hierarchy. -/
theorem parts_of_not_mem {text : String} (noQuery : '?' ∉ clean text)
    (noFragment : '#' ∉ clean text) : Parts.ofText text = ⟨clean text, none, none⟩ := by
  unfold Parts.ofText
  rw [divideOnce_of_not_mem noFragment]
  dsimp only
  rw [divideOnce_of_not_mem noQuery]

/-! ## Bases -/

/-- A web address has more than slashes after its scheme. -/
theorem readServer_nil {scheme : String} {port : Nat} {parts : Parts} {server : Url}
    (isWeb : SchemeKind.ofName scheme = .web port) : readServer scheme [] parts ≠ .ok server := by
  intro read
  unfold readServer at read
  dsimp only at read
  rw [isWeb] at read
  obtain ⟨⟨authority, rest⟩, authorityRead, _⟩ := exists_of_bind_eq_ok read
  have nothing : ∀ c ∈ ([] : List Char), isSlash true c = false := List.forall_mem_nil _
  have starts : StartsPath true [] := by
    rintro c ⟨⟩
  exact (readAuthority_path nothing starts authorityRead).1 rfl

/-- What stands behind the scheme of a web address, up to the slashes at its end, is more than
slashes, and stands there in front of any path. -/
theorem exists_front {base : List Char} {count : Nat} {server : Url}
    (noQuery : '?' ∉ base) (noFragment : '#' ∉ base)
    (read : parse (String.ofList (base ++ List.replicate count '/')) = .ok server)
    (isWeb : Http.isWebAddress server = true) :
    ∃ port front, SchemeKind.ofName server.scheme = .web port ∧
      front.dropWhile (isSlash true) ≠ [] ∧ ∀ path,
        divideScheme? (cleanBase base ++ '/' :: path) =
          some (server.scheme, front ++ '/' :: path) := by
  obtain ⟨more, whole⟩ := clean_isPrefix base count
  have absent {mark : Char} (notBase : mark ∉ base) (notSlash : mark ≠ '/') :
      mark ∉ clean (String.ofList (base ++ List.replicate count '/')) := by
    intro markIn
    have inWhole : mark ∈ cleanBase base ++ List.replicate count '/' := by
      rw [← whole]
      exact List.mem_append_left _ markIn
    rcases List.mem_append.1 inWhole with inBase | inSlashes
    · exact notBase (mem_of_mem_cleanBase inBase)
    · exact notSlash (List.eq_of_mem_replicate inSlashes)
  unfold parse at read
  rw [parts_of_not_mem (absent noQuery (by decide)) (absent noFragment (by decide))] at read
  dsimp only at read
  split at read
  · rename_i scheme rest divided
    obtain ⟨name, cleanIs, startsAlpha, areChars, schemeIs⟩ :=
      (divideScheme?_eq_some_iff _ _ _).1 divided
    obtain ⟨port, kind⟩ := kind_of_readScheme read isWeb
    unfold readScheme at read
    rw [kind] at read
    have sameScheme := scheme_of_readServer read
    rw [cleanIs, List.append_assoc, List.cons_append] at whole
    -- The colon of the scheme is before the slashes.
    obtain ⟨front, restIs, baseIs⟩ : ∃ front,
        rest ++ more = front ++ List.replicate count '/' ∧
        cleanBase base = (name ++ [':']) ++ front := by
      refine exists_of_append_replicate (whole.symm.trans ?_) ?_
      · rw [List.append_assoc, List.singleton_append]
      · intro last isLast
        rw [List.getLast?_append] at isLast
        cases isLast
        decide
    refine ⟨port, front, ?_, ?_, fun path => ?_⟩
    · rw [sameScheme]
      exact kind
    · intro onlySlashes
      have restSlashes : rest.dropWhile (isSlash true) = [] := by
        rw [List.dropWhile_eq_nil_iff] at onlySlashes ⊢
        intro c charIn
        have inWhole : c ∈ front ++ List.replicate count '/' := by
          rw [← restIs]
          exact List.mem_append_left _ charIn
        rcases List.mem_append.1 inWhole with inFront | inSlashes
        · exact onlySlashes c inFront
        · rw [List.eq_of_mem_replicate inSlashes]
          rfl
      rw [restSlashes] at read
      exact readServer_nil kind read
    · rw [sameScheme, divideScheme?_eq_some_iff]
      refine ⟨name, ?_, startsAlpha, areChars, schemeIs⟩
      rw [baseIs, List.append_assoc, List.append_assoc, List.singleton_append]
  · contradiction

/-- A path behind a base with neither `?` nor `#` is all hierarchy. -/
theorem parts_base_path {base path : List Char} (noQuery : '?' ∉ base) (noFragment : '#' ∉ base)
    (isPath : IsPathText path) : Parts.ofText (String.ofList (base ++ '/' :: path)) =
      ⟨cleanBase base ++ '/' :: path, none, none⟩ := by
  have absent {mark : Char} (notBase : mark ∉ base) (notSlash : mark ≠ '/')
      (notPath : ∀ c ∈ path, c ≠ mark) : mark ∉ clean (String.ofList (base ++ '/' :: path)) := by
    rw [clean_append_path base isPath, List.mem_append, List.mem_cons]
    rintro (inBase | slash | inPath)
    · exact notBase (mem_of_mem_cleanBase inBase)
    · exact notSlash slash
    · exact notPath mark inPath rfl
  rw [parts_of_not_mem
    (absent noQuery (by decide) fun c charIn => (isPath c charIn).2.1)
    (absent noFragment (by decide) fun c charIn => (isPath c charIn).2.2),
    clean_append_path base isPath]

/-- A path after a base is walked from where the path of the base leads, if one path after it is
part of a URL. -/
theorem parse_base_path {base : List Char} {count : Nat} {server : Url}
    (noQuery : '?' ∉ base) (noFragment : '#' ∉ base)
    (read : parse (String.ofList (base ++ List.replicate count '/')) = .ok server)
    (isWeb : Http.isWebAddress server = true) {path : List Char} {url : Url}
    (isPath : IsPathText path) (found : parse (String.ofList (base ++ '/' :: path)) = .ok url) :
    ∃ authority entered, ∀ other, IsPathText other →
      parse (String.ofList (base ++ '/' :: other)) =
        .ok (goingOn server.scheme authority entered other) := by
  obtain ⟨port, front, kind, hasServer, divided⟩ := exists_front noQuery noFragment read isWeb
  have parsed {other : List Char} (isOther : IsPathText other) :
      parse (String.ofList (base ++ '/' :: other)) =
        readServer server.scheme ((front ++ '/' :: other).dropWhile (isSlash true))
          ⟨cleanBase base ++ '/' :: other, none, none⟩ := by
    unfold parse
    rw [parts_base_path noQuery noFragment isOther]
    dsimp only
    rw [divided]
    dsimp only
    unfold readScheme
    rw [kind]
  have startsWith : StartsPath true ('/' :: path) := by
    rintro c ⟨⟩
    rfl
  have pathIs : (front ++ '/' :: path).dropWhile (isSlash true) =
      front.dropWhile (isSlash true) ++ '/' :: path := by
    rw [List.dropWhile_append, if_neg (by simpa using hasServer)]
  rw [parsed isPath, pathIs] at found
  obtain ⟨_, authority, first, _, goesOn⟩ := readServer_ending kind startsWith found
  refine ⟨authority, enteredBy first, fun other isOther => ?_⟩
  rw [parsed isOther]
  exact goesOn other _

end BillingClient.Url
