import BillingClient.Proofs.Url.Base
import BillingClient.Proofs.Url.Host

/-!
Contract: a path behind a base leads to the server of the base.

Blanks at the end of a base are dropped when nothing follows them, and stand before a path
otherwise. There they either belong to the path of the base, or they end its authority; but no
authority ends with a blank. Main statements: `exists_server_of_parse` and `origin_resolve`.
-/

namespace BillingClient.Url

open BillingClient.Text

/-! ## The end of an authority -/

theorem divideLast?_eq {mark : Char} {text before after : List Char}
    (divided : divideLast? mark text = some (before, after)) : text = before ++ mark :: after := by
  unfold divideLast? at divided
  split at divided
  · cases divided
  · rename_i c front shape
    cases divided
    have isMark : c = mark := by
      have found := List.head?_dropWhile_not (· ≠ mark) text.reverse
      rw [shape] at found
      simpa using found
    calc
      text = (text.reverse.takeWhile (· ≠ mark) ++ text.reverse.dropWhile (· ≠ mark)).reverse := by
        rw [List.takeWhile_append_dropWhile, List.reverse_reverse]
      _ = _ := by
        rw [shape, isMark, List.reverse_append, List.reverse_cons, List.append_assoc,
          List.singleton_append]

theorem divideHost_eq (isInside : Bool) (text : List Char) :
    text = (divideHost isInside text).1 ++ ((divideHost isInside text).2.map (':' :: ·)).getD [] := by
  induction text generalizing isInside with
  | nil => rfl
  | cons c text inductionHypothesis =>
      rw [divideHost]
      split
      · rename_i colon
        have isColon : c = ':' := by
          simp only [Bool.and_eq_true, decide_eq_true_eq] at colon
          exact colon.1
        rw [isColon]
        rfl
      · exact congrArg (c :: ·) (inductionHypothesis _)

variable {defaultPort : Nat}

/-- The server of a web address does not end with a blank or a control. -/
theorem last_of_readParts {user : Option (List Char)} {server rest : List Char}
    {authority : Authority}
    (read : readParts (.web defaultPort) user server = .ok (authority, rest))
    (noBackslash : '\\' ∉ server) : ∀ c ∈ server.getLast?, 0x20 < c.toNat := by
  have whole := divideHost_eq false server
  unfold readParts at read
  obtain ⟨username, password⟩ := readUser (user.getD [])
  dsimp only at read
  obtain ⟨host, hosted, read⟩ := exists_of_bind_eq_ok read
  obtain ⟨⟨port, left⟩, ported, _⟩ := exists_of_bind_eq_ok read
  cases portText : (divideHost false server).2 with
  | none =>
      rw [portText] at whole hosted
      rw [Option.map_none, Option.getD_none, List.append_nil] at whole
      rw [← whole] at hosted
      cases server with
      | nil => cases hosted
      | cons c server =>
          obtain ⟨found, isHost, _⟩ := exists_of_bind_eq_ok hosted
          exact Host.last_of_read isHost
  | some text =>
      rw [portText] at whole ported
      rw [Option.map_some, Option.getD_some] at whole
      have inServer : '\\' ∉ text := fun charIn => noBackslash (mem_of_mem_divideHost portText charIn)
      obtain ⟨dropped, _⟩ := readPort_ok ported
      rw [rest_of_readPort ported inServer] at dropped
      have areDigits := List.dropWhile_eq_nil_iff.1 dropped.symm
      intro c isLast
      rw [whole, List.getLast?_append_of_ne_nil _ (List.cons_ne_nil _ _)] at isLast
      rcases List.mem_cons.1 (List.mem_of_getLast? isLast) with rfl | charIn
      · decide
      · have digit := areDigits c charIn
        simp only [Char.isDigit, Bool.and_eq_true, decide_eq_true_eq, UInt32.le_iff_toNat_le] at digit
        exact Nat.lt_of_lt_of_le (by decide) digit.1

theorem last_of_readAuthority {isLast : Bool} {whole path rest : List Char} {authority : Authority}
    (noSlash : ∀ c ∈ whole, isSlash true c = false) (starts : StartsPath true path)
    (read : readAuthority (.web defaultPort) isLast (whole ++ path) = .ok (authority, rest)) :
    ∀ c ∈ whole.getLast?, 0x20 < c.toNat := by
  obtain ⟨takes, drops⟩ := takeWhile_of_startsPath noSlash starts
  have special : (SchemeKind.web defaultPort).isSpecial = true := rfl
  have noBackslash := backslash_not_mem_server noSlash
  unfold readAuthority at read
  dsimp only at read
  rw [special, takes, drops] at read
  split at read
  · cases read
  · obtain ⟨⟨found, left⟩, parts, _⟩ := exists_of_bind_eq_ok read
    obtain ⟨hasServer, _⟩ := readParts_ok parts noBackslash
    have last := last_of_readParts parts noBackslash
    unfold divideUser at hasServer last
    split at last
    · exact last
    · rename_i divided
      rw [divided] at hasServer
      intro c isEnd
      rw [divideLast?_eq divided, List.getLast?_append_of_ne_nil _ (List.cons_ne_nil _ _),
        List.getLast?_cons_of_ne_nil hasServer] at isEnd
      exact last c isEnd

/-! ## Texts behind a base -/

/-- A base alone is what it is in front of a path, but without the blanks at its end. -/
theorem exists_cleanBase_eq (base : List Char) : ∃ blanks, (∀ c ∈ blanks, c.toNat ≤ 0x20) ∧
    cleanBase base = clean (String.ofList base) ++ blanks := by
  let text := base.dropWhile isOuter
  refine ⟨(text.reverse.takeWhile isOuter).reverse.filter isInner, fun c charIn => ?_, ?_⟩
  · have outer := List.mem_takeWhile_imp (List.mem_reverse.1 (List.mem_filter.1 charIn).1)
    simpa [isOuter] using outer
  · have whole : text = (text.reverse.dropWhile isOuter).reverse ++
        (text.reverse.takeWhile isOuter).reverse := by
      rw [← List.reverse_append, List.takeWhile_append_dropWhile, List.reverse_reverse]
    rw [clean_ofList, ← List.filter_append]
    exact congrArg _ whole

/-- Whether a character stays in the hierarchy. -/
def isHierarchy (c : Char) : Bool :=
  c != '?' && c != '#'

theorem hierarchy_eq (text : String) :
    (Parts.ofText text).hierarchy = (clean text).takeWhile isHierarchy := by
  have divided (mark : Char) (text : List Char) :
      (divideOnce mark text).1 = text.takeWhile (· ≠ mark) := by
    unfold divideOnce
    split
    · rename_i none
      have whole := List.takeWhile_append_dropWhile (p := (· ≠ mark)) (l := text)
      rw [none, List.append_nil] at whole
      exact whole.symm
    · rfl
  show (divideOnce '?' (divideOnce '#' (clean text)).1).1 = _
  rw [divided, divided, List.takeWhile_takeWhile]
  congr 1
  funext c
  simp [isHierarchy, Bool.beq_eq_decide_eq, bne]

/-- What a path adds to the hierarchy of a base: nothing where that is ended before, else the path
behind blanks. -/
inductive Addition (blanks more : List Char) : List Char → Prop
  | none : Addition blanks more []
  | path {left : List Char} (isLeft : left ⊆ more) : Addition blanks more (blanks ++ '/' :: left)

theorem exists_hierarchy (base : List Char) : ∃ blanks, (∀ c ∈ blanks, c.toNat ≤ 0x20) ∧
    ∀ more, ∃ added, Addition blanks more added ∧
      (Parts.ofText (String.ofList (base ++ '/' :: more))).hierarchy =
        (Parts.ofText (String.ofList base)).hierarchy ++ added := by
  obtain ⟨blanks, areBlanks, cleanIs⟩ := exists_cleanBase_eq base
  refine ⟨blanks, areBlanks, fun more => ?_⟩
  rw [hierarchy_eq, hierarchy_eq, clean_append_slash, cleanIs, List.append_assoc,
    List.takeWhile_append]
  split
  · rename_i allKept
    have stay : ∀ c ∈ blanks, isHierarchy c = true := by
      intro c charIn
      have blank := areBlanks c charIn
      have notMark : c ≠ '?' ∧ c ≠ '#' := by
        constructor
        · rintro rfl
          exact absurd blank (by decide)
        · rintro rfl
          exact absurd blank (by decide)
      simp [isHierarchy, notMark]
    have kept : (clean (String.ofList base)).takeWhile isHierarchy = clean (String.ofList base) :=
      (List.takeWhile_sublist _).eq_of_length allKept
    rw [kept, List.takeWhile_append_of_pos stay, List.takeWhile_cons_of_pos rfl]
    refine ⟨_, .path fun c charIn => ?_, rfl⟩
    have stayed := (List.mem_filter.1 ((List.takeWhile_sublist _).subset charIn)).1
    exact List.mem_reverse.1 ((List.dropWhile_sublist _).subset (List.mem_reverse.1 stayed))
  · exact ⟨[], .none, (List.append_nil _).symm⟩

/-! ## Servers -/

/-- What is added starts with a blank or a slash. -/
theorem Addition.first {blanks more added : List Char} (isAddition : Addition blanks more added)
    (areBlanks : ∀ c ∈ blanks, c.toNat ≤ 0x20) : ∀ c ∈ added.head?, c.toNat ≤ 0x20 ∨ c = '/' := by
  intro c isFirst
  cases isAddition with
  | none => cases isFirst
  | path isLeft =>
      cases blanks with
      | nil =>
          cases isFirst
          exact .inr rfl
      | cons blank blanks =>
          cases isFirst
          exact .inl (areBlanks c List.mem_cons_self)

theorem Addition.mem {blanks more added : List Char} (isAddition : Addition blanks more added)
    {c : Char} (charIn : c ∈ added) : c ∈ blanks ∨ c = '/' ∨ c ∈ more := by
  cases isAddition with
  | none => exact absurd charIn List.not_mem_nil
  | path isLeft =>
      rcases List.mem_append.1 charIn with inBlanks | behind
      · exact .inl inBlanks
      · exact .inr ((List.mem_cons.1 behind).imp_right fun inLeft => isLeft inLeft)

theorem visible_of_isSchemeChar {c : Char} (isChar : isSchemeChar c = true) :
    0x20 < c.toNat ∧ c ≠ '/' := by
  constructor
  · apply Nat.lt_of_not_le
    intro blank
    have ascii : c.toNat < 0x80 := by omega
    have never := forall_ascii (fun c => c.toNat ≤ 0x20 → isSchemeChar c = false) (by decide) ascii
    rw [never blank] at isChar
    cases isChar
  · rintro rfl
    exact absurd isChar (by decide)

/-- The scheme is named in the base, before anything that is added. -/
theorem divideScheme?_append {base added blanks more rest : List Char} {scheme : String}
    (areBlanks : ∀ c ∈ blanks, c.toNat ≤ 0x20) (isAddition : Addition blanks more added)
    (divided : divideScheme? (base ++ added) = some (scheme, rest)) :
    ∃ front, rest = front ++ added ∧ ∀ other,
      divideScheme? (base ++ other) = some (scheme, front ++ other) := by
  obtain ⟨name, whole, startsAlpha, areChars, schemeIs⟩ :=
    (divideScheme?_eq_some_iff _ _ _).1 divided
  have visible : ∀ c ∈ name ++ [':'], 0x20 < c.toNat ∧ c ≠ '/' := by
    rw [List.forall_mem_append, List.forall_mem_singleton]
    exact ⟨fun c charIn => visible_of_isSchemeChar (areChars c charIn), by decide⟩
  have shape : base ++ added = (name ++ [':']) ++ rest := by
    rw [whole, List.append_assoc, List.singleton_append]
  obtain ⟨front, baseIs, restIs⟩ : ∃ front, base = (name ++ [':']) ++ front ∧
      rest = front ++ added := by
    rcases List.append_eq_append_iff.1 shape with ⟨between, nameIs, addedIs⟩ | ⟨front, baseIs, restIs⟩
    · cases between with
      | nil =>
          rw [List.append_nil] at nameIs
          exact ⟨[], by rw [nameIs, List.append_nil], addedIs.symm⟩
      | cons c between =>
          exfalso
          have inName := visible c (by rw [nameIs]; simp)
          have isFirst : c ∈ added.head? := by
            rw [addedIs]
            rfl
          rcases isAddition.first areBlanks c isFirst with blank | slash
          · exact Nat.not_le_of_lt inName.1 blank
          · exact inName.2 slash
    · exact ⟨front, baseIs, restIs⟩
  refine ⟨front, restIs, fun other => ?_⟩
  rw [divideScheme?_eq_some_iff]
  refine ⟨name, ?_, startsAlpha, areChars, schemeIs⟩
  rw [baseIs, List.append_assoc, List.append_assoc, List.singleton_append]

/-- The text of the server of a web address, in what follows the colon of its scheme. -/
def serverText (text : List Char) : List Char :=
  (text.dropWhile (isSlash true)).takeWhile (!isSlash true ·)

/-- The text of the path of a web address, behind that of its server. -/
def serverRest (text : List Char) : List Char :=
  (text.dropWhile (isSlash true)).dropWhile (!isSlash true ·)

theorem serverText_append_serverRest (text : List Char) :
    text.dropWhile (isSlash true) = serverText text ++ serverRest text ∧
      (∀ c ∈ serverText text, isSlash true c = false) ∧ StartsPath true (serverRest text) :=
  ⟨List.takeWhile_append_dropWhile.symm, server_divided _⟩

section

variable {scheme : String} {port : Nat} (isWeb : SchemeKind.ofName scheme = .web port)
  {text : List Char} {parts : Parts} {url : Url}
  (read : readServer scheme (text.dropWhile (isSlash true)) parts = .ok url)

include isWeb read

/-- A web address has a server, which does not end with a blank or a control. -/
theorem serverText_ok : serverText text ≠ [] ∧ ∀ c ∈ (serverText text).getLast?, 0x20 < c.toNat := by
  obtain ⟨whole, noSlash, starts⟩ := serverText_append_serverRest text
  rw [whole] at read
  unfold readServer at read
  dsimp only at read
  rw [isWeb] at read
  obtain ⟨⟨authority, rest⟩, authorityRead, _⟩ := exists_of_bind_eq_ok read
  exact ⟨(readAuthority_path noSlash starts authorityRead).1,
    last_of_readAuthority noSlash starts authorityRead⟩

/-- Texts with the same server are read as the same authority, each with its own path. -/
theorem exists_authority_of_readServer : ∃ authority, ∀ other otherParts,
    serverText other = serverText text →
      readServer scheme (other.dropWhile (isSlash true)) otherParts =
        .ok ⟨scheme, some authority, .segments (readPath true (serverRest other)),
          otherParts.queryText true, otherParts.fragmentText⟩ := by
  obtain ⟨whole, noSlash, starts⟩ := serverText_append_serverRest text
  rw [whole] at read
  unfold readServer at read
  dsimp only at read
  rw [isWeb] at read
  obtain ⟨⟨authority, rest⟩, authorityRead, _⟩ := exists_of_bind_eq_ok read
  refine ⟨authority, fun other otherParts same => ?_⟩
  obtain ⟨otherWhole, _, otherStarts⟩ := serverText_append_serverRest other
  unfold readServer
  dsimp only
  rw [isWeb, otherWhole, same, (readAuthority_path noSlash starts authorityRead).2 _ _ otherStarts]
  rfl

theorem readServer_congr {other : List Char} (same : serverText other = serverText text)
    (otherParts : Parts) : ∃ found,
      readServer scheme (other.dropWhile (isSlash true)) otherParts = .ok found ∧
        found.scheme = url.scheme ∧ found.authority = url.authority := by
  obtain ⟨authority, reads⟩ := exists_authority_of_readServer isWeb read
  cases read.symm.trans (reads text parts rfl)
  exact ⟨_, reads other otherParts same, rfl, rfl⟩

/-- There is more than slashes and blanks. -/
theorem exists_server_char : ∃ c ∈ text, isSlash true c = false ∧ 0x20 < c.toNat := by
  obtain ⟨hasServer, visible⟩ := serverText_ok isWeb read
  obtain ⟨_, noSlash, _⟩ := serverText_append_serverRest text
  have isLast := List.getLast?_eq_some_getLast hasServer
  have charIn := List.mem_of_getLast? isLast
  refine ⟨_, ?_, noSlash _ charIn, visible _ isLast⟩
  exact (List.dropWhile_sublist _).subset ((List.takeWhile_sublist _).subset charIn)

end

/-- Up to its first slash an addition is blank. -/
theorem Addition.blank_of_mem_takeWhile {added blanks more : List Char}
    (isAddition : Addition blanks more added) (areBlanks : ∀ c ∈ blanks, c.toNat ≤ 0x20) :
    ∀ c ∈ added.takeWhile (!isSlash true ·), c.toNat ≤ 0x20 := by
  intro c charIn
  cases isAddition with
  | none => cases charIn
  | path isLeft =>
      rw [List.takeWhile_append, List.takeWhile_cons_of_neg (by decide), List.append_nil] at charIn
      split at charIn
      · exact areBlanks c charIn
      · exact areBlanks c ((List.takeWhile_sublist _).subset charIn)

/-- Nothing that is added belongs to the server, if there is more in front of it than slashes. -/
theorem Addition.serverText_append {front added blanks more : List Char}
    (isAddition : Addition blanks more added) (areBlanks : ∀ c ∈ blanks, c.toNat ≤ 0x20)
    (hasServer : front.dropWhile (isSlash true) ≠ [])
    (visible : ∀ c ∈ (serverText (front ++ added)).getLast?, 0x20 < c.toNat) :
    serverText (front ++ added) = serverText front := by
  have goesOn : (front ++ added).dropWhile (isSlash true) =
      front.dropWhile (isSlash true) ++ added := by
    rw [List.dropWhile_append, if_neg (by simpa using hasServer)]
  unfold serverText at visible ⊢
  rw [goesOn, List.takeWhile_append] at visible ⊢
  split
  · rename_i allKept
    rw [if_pos allKept] at visible
    have nothing : added.takeWhile (!isSlash true ·) = [] := by
      apply Decidable.of_not_not
      intro something
      rw [List.getLast?_append_of_ne_nil _ something] at visible
      have isLast := List.getLast?_eq_some_getLast something
      have blank := isAddition.blank_of_mem_takeWhile areBlanks _ (List.mem_of_getLast? isLast)
      exact Nat.not_le_of_lt (visible _ isLast) blank
    rw [nothing, List.append_nil, (List.takeWhile_sublist _).eq_of_length allKept]
  · rfl

/-! ## Bases -/

/-- What is read of a web address, by what follows the scheme in its hierarchy. -/
theorem parse_of_divided {text : String} {scheme : String} {port : Nat} {rest : List Char}
    (isWeb : SchemeKind.ofName scheme = .web port)
    (divided : divideScheme? (Parts.ofText text).hierarchy = some (scheme, rest)) :
    parse text = readServer scheme (rest.dropWhile (isSlash true)) (Parts.ofText text) := by
  unfold parse
  dsimp only
  rw [divided]
  dsimp only
  unfold readScheme
  rw [isWeb]

theorem exists_divided_of_parse {text : String} {url : Url} (read : parse text = .ok url)
    (isWeb : Http.isWebAddress url = true) : ∃ port rest,
      SchemeKind.ofName url.scheme = .web port ∧
      divideScheme? (Parts.ofText text).hierarchy = some (url.scheme, rest) := by
  unfold parse at read
  dsimp only at read
  split at read
  · rename_i scheme rest divided
    obtain ⟨port, kind⟩ := kind_of_readScheme read isWeb
    unfold readScheme at read
    rw [kind] at read
    have sameScheme := scheme_of_readServer read
    rw [← sameScheme] at kind divided
    exact ⟨port, rest, kind, divided⟩
  · cases read

/-- What slashes add to a hierarchy. -/
theorem exists_hierarchy_slashes (base : List Char) : ∃ blanks,
    (∀ c ∈ blanks, c.toNat ≤ 0x20) ∧
    (∀ more, ∃ added, Addition blanks more added ∧
      (Parts.ofText (String.ofList (base ++ '/' :: more))).hierarchy =
        (Parts.ofText (String.ofList base)).hierarchy ++ added) ∧
    ∀ count, ∃ added, Addition blanks (List.replicate count '/') added ∧
      (Parts.ofText (String.ofList (base ++ List.replicate count '/'))).hierarchy =
        (Parts.ofText (String.ofList base)).hierarchy ++ added := by
  obtain ⟨blanks, areBlanks, hierarchyIs⟩ := exists_hierarchy base
  refine ⟨blanks, areBlanks, hierarchyIs, fun count => ?_⟩
  cases count with
  | zero => exact ⟨[], .none, by rw [List.replicate_zero, List.append_nil, List.append_nil]⟩
  | succ count =>
      obtain ⟨added, isAddition, whole⟩ := hierarchyIs (List.replicate count '/')
      refine ⟨added, ?_, whole⟩
      cases isAddition with
      | none => exact .none
      | path isLeft => exact .path fun c charIn => List.mem_cons_of_mem _ (isLeft charIn)

/-- A base with slashes behind it that is a web address is one without them, and every path behind
it leads to the same server, if it leads anywhere. -/
theorem exists_server_of_parse {base : List Char} {count : Nat} {server : Url}
    (read : parse (String.ofList (base ++ List.replicate count '/')) = .ok server)
    (isWeb : Http.isWebAddress server = true) :
    ∃ home, parse (String.ofList base) = .ok home ∧ home.scheme = server.scheme ∧
      home.authority = server.authority ∧ ∀ more url,
        parse (String.ofList (base ++ '/' :: more)) = .ok url →
          url.scheme = server.scheme ∧ url.authority = server.authority := by
  obtain ⟨blanks, areBlanks, paths, slashes⟩ := exists_hierarchy_slashes base
  obtain ⟨added, isAddition, whole⟩ := slashes count
  obtain ⟨port, rest, kind, divided⟩ := exists_divided_of_parse read isWeb
  rw [parse_of_divided kind divided] at read
  rw [whole] at divided
  obtain ⟨front, rfl, divides⟩ := divideScheme?_append areBlanks isAddition divided
  have hasServer : front.dropWhile (isSlash true) ≠ [] := by
    intro onlySlashes
    obtain ⟨c, charIn, noSlash, visible⟩ := exists_server_char kind read
    rcases List.mem_append.1 charIn with inFront | inAdded
    · have slash := List.dropWhile_eq_nil_iff.1 onlySlashes c inFront
      rw [noSlash] at slash
      cases slash
    · rcases isAddition.mem inAdded with inBlanks | slash | inSlashes
      · exact Nat.not_le_of_lt visible (areBlanks c inBlanks)
      · rw [slash] at noSlash
        cases noSlash
      · rw [List.eq_of_mem_replicate inSlashes] at noSlash
        cases noSlash
  have same {added : List Char} {more : List Char} {parts : Parts} {url : Url}
      (isAddition : Addition blanks more added)
      (read : readServer server.scheme ((front ++ added).dropWhile (isSlash true)) parts = .ok url) :
      serverText front = serverText (front ++ added) :=
    (isAddition.serverText_append areBlanks hasServer (serverText_ok kind read).2).symm
  have baseDivided := divides []
  rw [List.append_nil, List.append_nil] at baseDivided
  obtain ⟨home, homeRead, homeScheme, homeAuthority⟩ := readServer_congr kind read
    (same isAddition read) (Parts.ofText (String.ofList base))
  refine ⟨home, ?_, homeScheme, homeAuthority, fun more url found => ?_⟩
  · rw [parse_of_divided kind baseDivided]
    exact homeRead
  · obtain ⟨path, isPath, pathWhole⟩ := paths more
    have pathDivided := divides path
    rw [← pathWhole] at pathDivided
    rw [parse_of_divided kind pathDivided] at found
    obtain ⟨again, againRead, againScheme, againAuthority⟩ := readServer_congr kind found
      (same isPath found) (Parts.ofText (String.ofList base))
    rw [homeRead] at againRead
    cases againRead
    exact ⟨againScheme.symm.trans homeScheme, againAuthority.symm.trans homeAuthority⟩

/-! ## References -/

/-- Whether a reference starts with one slash alone. -/
def IsPathOnly (reference : String) : Prop :=
  ∃ rest, clean reference = '/' :: rest ∧ ∀ c ∈ rest.head?, isSlash true c = false

/-- A path leads to the server of the base. -/
theorem origin_resolve {base url : Url} {reference : String} (pathOnly : IsPathOnly reference)
    (resolves : base.resolve reference = .ok url) :
    url.scheme = base.scheme ∧ url.authority = base.authority := by
  obtain ⟨rest, cleaned, alone⟩ := pathOnly
  have hierarchyIs : (Parts.ofText reference).hierarchy = '/' :: rest.takeWhile isHierarchy := by
    rw [hierarchy_eq, cleaned, List.takeWhile_cons_of_pos rfl]
  have slashes : (('/' :: rest.takeWhile isHierarchy).takeWhile (isSlash true)).length = 1 := by
    rw [List.takeWhile_cons_of_pos rfl]
    cases rest with
    | nil => rfl
    | cons c rest =>
        rw [List.takeWhile_cons]
        split
        · rw [List.takeWhile_cons_of_neg (by simp [alone c rfl])]
          rfl
        · rfl
  unfold resolve at resolves
  dsimp only at resolves
  rw [hierarchyIs] at resolves
  have noScheme : divideScheme? ('/' :: rest.takeWhile isHierarchy) = none := rfl
  rw [noScheme] at resolves
  dsimp only at resolves
  unfold relative at resolves
  dsimp only at resolves
  rw [slashes] at resolves
  split at resolves
  · cases resolves
  · cases resolves
    exact ⟨rfl, rfl⟩

end BillingClient.Url
