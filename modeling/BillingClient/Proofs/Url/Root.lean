import BillingClient.Proofs.Url.Origin
import BillingClient.Proofs.Url.PathEnd
import BillingClient.Proofs.Url.Query

/-!
Contract: where a path behind the base of a server URL leads.

The base is the text of the URL without the slashes at its end. A path behind it goes on from where
it has entered, and what stands at its end decides whether that is the path of the server: blanks,
slashes that are not dropped, and segments that are empty add to it. Behind a query or a fragment no
path leads anywhere. Main statements: `hasRoot_iff` and `unmarked_of_pathText`.
-/

namespace BillingClient.Url

open BillingClient.Text

/-! ## Ends of bases -/

theorem mem_clean_of_visible {text : List Char} {c : Char} (charIn : c ∈ text)
    (visible : 0x20 < c.toNat) : c ∈ clean (String.ofList text) := by
  obtain ⟨front, back, whole, inFront, inBack⟩ := exists_eq_trimBoth isOuter text
  have notOuter := isOuter_eq_false visible
  rw [clean_ofList, List.mem_filter]
  refine ⟨?_, isInner_of_le (Nat.le_of_lt visible)⟩
  rw [whole] at charIn
  rcases List.mem_append.1 charIn with charIn | atEnd
  · rcases List.mem_append.1 charIn with atFront | inside
    · rw [inFront c atFront] at notOuter
      cases notOuter
    · exact inside
  · rw [inBack c atEnd] at notOuter
    cases notOuter

/-- Blanks at the ends of a text are dropped. -/
theorem last_of_clean (text : List Char) :
    ∀ c ∈ (clean (String.ofList text)).getLast?, 0x20 < c.toNat := by
  have stops := List.head?_dropWhile_not isOuter (text.dropWhile isOuter).reverse
  rw [clean_ofList]
  unfold trimBoth
  cases shape : (text.dropWhile isOuter).reverse.dropWhile isOuter with
  | nil => exact nofun
  | cons last front =>
      rw [shape] at stops
      have visible : 0x20 < last.toNat := by simpa [isOuter] using stops
      rw [List.reverse_cons, List.filter_append,
        List.filter_cons_of_pos (isInner_of_le (Nat.le_of_lt visible)), List.filter_nil,
        List.getLast?_concat]
      rintro c ⟨⟩
      exact visible

/-- Where a base is more than blanks, it ends as it is written, but for tabs and line ends. -/
theorem getLast?_cleanBase {base : List Char} (some : cleanBase base ≠ []) :
    (cleanBase base).getLast? = (base.filter isInner).getLast? := by
  conv_rhs => rw [← List.takeWhile_append_dropWhile (p := isOuter) (l := base), List.filter_append]
  exact (List.getLast?_append_of_ne_nil _ some).symm

/-- A base with a server ends visibly and with no slash exactly if no blanks are dropped at its end,
and its path, if it has one, ends so. -/
theorem ends_iff {base blanks front rest : List Char} (areBlanks : ∀ c ∈ blanks, c.toNat ≤ 0x20)
    (cleanIs : cleanBase base = clean (String.ofList base) ++ blanks)
    (whole : clean (String.ofList base) = front ++ rest) (hasServer : serverText rest ≠ []) :
    (blanks = [] ∧ ∀ c ∈ (serverRest rest).getLast?, isSlash true c = false) ↔
      ∀ c ∈ (base.filter isInner).getLast?, 0x20 < c.toNat ∧ isSlash true c = false := by
  obtain ⟨restIs, noSlash, _⟩ := serverText_append_serverRest rest
  have textSome : serverText rest ++ serverRest rest ≠ [] :=
    List.append_ne_nil_of_left_ne_nil hasServer _
  have lastIs : (clean (String.ofList base)).getLast? =
      (serverText rest ++ serverRest rest).getLast? := by
    have restWhole : rest = rest.takeWhile (isSlash true) ++ (serverText rest ++ serverRest rest) := by
      rw [← restIs, List.takeWhile_append_dropWhile]
    conv_lhs => rw [whole, restWhole, ← List.append_assoc, List.getLast?_append_of_ne_nil _ textSome]
  have hasLast : (clean (String.ofList base)).getLast? ≠ none := by
    rw [lastIs, ne_eq, List.getLast?_eq_none_iff]
    exact textSome
  have cleanSome : cleanBase base ≠ [] := by
    rw [cleanIs]
    exact List.append_ne_nil_of_left_ne_nil (fun none => hasLast (by rw [none]; rfl)) _
  rw [← getLast?_cleanBase cleanSome, cleanIs]
  by_cases none : blanks = []
  · subst none
    rw [List.append_nil]
    constructor
    · rintro ⟨_, ends⟩ c isLast
      refine ⟨last_of_clean base c isLast, ?_⟩
      rw [lastIs] at isLast
      by_cases noPath : serverRest rest = []
      · rw [noPath, List.append_nil] at isLast
        exact noSlash c (List.mem_of_getLast? isLast)
      · rw [List.getLast?_append_of_ne_nil _ noPath] at isLast
        exact ends c isLast
    · intro ends
      refine ⟨rfl, fun c isLast => (ends c ?_).2⟩
      rw [lastIs, List.getLast?_append, isLast]
      rfl
  · refine iff_of_false (fun both => none both.1) fun ends => ?_
    have isLast := List.getLast?_eq_some_getLast none
    have visible := (ends _ (by rwa [List.getLast?_append_of_ne_nil _ none])).1
    exact Nat.not_le_of_lt visible (areBlanks _ (List.mem_of_getLast? isLast))

/-! ## Paths behind a base -/

/-- The path of a server with slashes behind what it has entered. -/
theorem pathText_goingOn_replicate (scheme : String) (authority : Authority)
    (entered : List String) (count : Nat) :
    (goingOn scheme authority entered (List.replicate count '/')).pathText =
      segmentsText entered.reverse ++ slashes (count + 1) := by
  show segmentsText (walk entered ((divideSegments true (List.replicate count '/')).map
    Step.ofSegment)) = _
  have steps : (List.replicate (count + 1) []).map Step.ofSegment =
      (List.replicate (count + 1) "").map .enter := by
    rw [List.map_replicate, List.map_replicate]
    rfl
  rw [divideSegments_replicate, steps, walk_enter entered (by simp),
    segmentsText_append, segmentsText_replicate]

/-- Blanks behind a server without a path would end that, so there are none if it ends visibly. -/
theorem startsPath_append_blanks {text rest blanks more : List Char}
    (areBlanks : ∀ c ∈ blanks, c.toNat ≤ 0x20)
    (behind : text.dropWhile (isSlash true) =
      serverText rest ++ (serverRest rest ++ blanks ++ '/' :: more))
    (visible : ∀ c ∈ (serverText text).getLast?, 0x20 < c.toNat) :
    StartsPath true (serverRest rest ++ blanks) := by
  obtain ⟨_, noSlash, starts⟩ := serverText_append_serverRest rest
  cases pathIs : serverRest rest with
  | cons c path =>
      rw [pathIs] at starts
      exact starts
  | nil =>
      have noSlashes : ∀ c ∈ serverText rest ++ blanks, isSlash true c = false := by
        rw [List.forall_mem_append]
        exact ⟨noSlash, fun c charIn => isSlash_of_blank (areBlanks c charIn)⟩
      have slashFirst : StartsPath true ('/' :: more) := by
        rintro c ⟨⟩
        rfl
      have textIs : serverText text = serverText rest ++ blanks := by
        rw [pathIs, List.nil_append, ← List.append_assoc] at behind
        conv_lhs => rw [serverText, behind]
        exact (takeWhile_of_startsPath noSlashes slashFirst).1
      cases blanks with
      | nil => exact nofun
      | cons blank blanks =>
          have isLast := List.getLast?_eq_some_getLast (List.cons_ne_nil blank blanks)
          rw [textIs, List.getLast?_append_of_ne_nil _ (List.cons_ne_nil _ _)] at visible
          exact absurd (areBlanks _ (List.mem_of_getLast? isLast))
            (Nat.not_le_of_lt (visible _ isLast))

/-- How a base is read: the path of its server, and the blanks that stand behind it in front of a
path. -/
structure ReadsBase (base : List Char) (server : Url) (authority : Authority)
    (path blanks : List Char) : Prop where
  areBlanks : ∀ c ∈ blanks, c.toNat ≤ 0x20
  starts : StartsPath true path
  pathText_eq : server.pathText = segmentsText (readPath true path)
  ends_iff : (blanks = [] ∧ ∀ c ∈ path.getLast?, isSlash true c = false) ↔
    ∀ c ∈ (base.filter isInner).getLast?, 0x20 < c.toNat ∧ isSlash true c = false
  /-- Blanks are not read as a part of the server. -/
  starts_of_parse {more : List Char} {url : Url} (isPath : IsPathText more)
    (found : parse (String.ofList (base ++ '/' :: more)) = .ok url) :
    StartsPath true (path ++ blanks)
  parse_eq (starts : StartsPath true (path ++ blanks)) {more : List Char}
    (isPath : IsPathText more) : parse (String.ofList (base ++ '/' :: more)) =
      .ok (goingOn server.scheme authority (enteredBy (path ++ blanks)) more)

section

variable {base : List Char} {server : Url}

theorem exists_readsBase (noQuery : '?' ∉ base) (noFragment : '#' ∉ base)
    (read : parse (String.ofList base) = .ok server) (isWeb : Http.isWebAddress server = true) :
    ∃ authority path blanks, ReadsBase base server authority path blanks := by
  obtain ⟨blanks, areBlanks, cleanIs⟩ := exists_cleanBase_eq base
  have absent {mark : Char} (notBase : mark ∉ base) : mark ∉ clean (String.ofList base) :=
    fun markIn => notBase (mem_of_mem_clean markIn)
  obtain ⟨port, rest, kind, divided⟩ := exists_divided_of_parse read isWeb
  rw [parse_of_divided kind divided] at read
  rw [parts_of_not_mem (absent noQuery) (absent noFragment)] at divided
  dsimp only at divided
  obtain ⟨name, whole, startsAlpha, areChars, schemeIs⟩ :=
    (divideScheme?_eq_some_iff _ _ _).1 divided
  obtain ⟨authority, reads⟩ := exists_authority_of_readServer kind read
  have own := Except.ok.inj (read.symm.trans (reads rest _ rfl))
  obtain ⟨restIs, noSlash, starts⟩ := serverText_append_serverRest rest
  have hasServer := (serverText_ok kind read).1
  have hasRest : rest.dropWhile (isSlash true) ≠ [] := by
    rw [restIs]
    exact List.append_ne_nil_of_left_ne_nil hasServer _
  have behind (more : List Char) :
      (rest ++ (blanks ++ '/' :: more)).dropWhile (isSlash true) =
        serverText rest ++ (serverRest rest ++ blanks ++ '/' :: more) := by
    rw [List.dropWhile_append, if_neg (by simpa using hasRest), restIs, List.append_assoc,
      List.append_assoc]
  have parsed {more : List Char} (isPath : IsPathText more) :
      parse (String.ofList (base ++ '/' :: more)) =
        readServer server.scheme ((rest ++ (blanks ++ '/' :: more)).dropWhile (isSlash true))
          ⟨cleanBase base ++ '/' :: more, none, none⟩ := by
    have partsIs := parts_base_path noQuery noFragment isPath
    have divides : divideScheme? (cleanBase base ++ '/' :: more) =
        some (server.scheme, rest ++ (blanks ++ '/' :: more)) := by
      rw [divideScheme?_eq_some_iff]
      refine ⟨name, ?_, startsAlpha, areChars, schemeIs⟩
      rw [cleanIs, whole, List.append_assoc, List.append_assoc, List.cons_append]
    rw [parse_of_divided kind (by rw [partsIs]; exact divides), partsIs]
  refine ⟨authority, serverRest rest, blanks, areBlanks, starts, ?_, ?_, ?_, ?_⟩
  · exact congrArg pathText own
  · rw [List.append_cons] at whole
    exact ends_iff areBlanks cleanIs whole hasServer
  · intro more url isPath found
    rw [parsed isPath] at found
    exact startsPath_append_blanks areBlanks (behind more) (serverText_ok kind found).2
  · intro goesOn more isPath
    have startsWhole : StartsPath true (serverRest rest ++ blanks ++ '/' :: more) :=
      goesOn.append (by rintro c ⟨⟩; rfl)
    obtain ⟨takes, drops⟩ := takeWhile_of_startsPath noSlash startsWhole
    rw [parsed isPath, reads _ _ (by unfold serverText; rw [behind, takes]; rfl)]
    unfold serverRest goingOn
    rw [behind, drops, readPath_append goesOn]
    rfl

end

/-! ## Roots -/

/-- Whether every path behind a base goes on from the path of a server, but for slashes at the end
of that. -/
def HasRoot (base : List Char) (server : Url) : Prop :=
  ∃ authority entered,
    (∀ path, IsPathText path → parse (String.ofList (base ++ '/' :: path)) =
      .ok (goingOn server.scheme authority entered path)) ∧
    withoutSlashes server.pathText = segmentsText entered.reverse

section

variable {base : List Char} {server : Url}

theorem hasRoot_iff_of_under {authority : Authority} {entered : List String}
    (under : ∀ path, IsPathText path → parse (String.ofList (base ++ '/' :: path)) =
      .ok (goingOn server.scheme authority entered path)) :
    HasRoot base server ↔ withoutSlashes server.pathText = segmentsText entered.reverse := by
  refine ⟨?_, fun same => ⟨authority, entered, under, same⟩⟩
  rintro ⟨_, other, otherUnder, same⟩
  have isPath : IsPathText [] := List.forall_mem_nil _
  have paths := congrArg pathText (Except.ok.inj ((otherUnder [] isPath).symm.trans (under [] isPath)))
  rw [← List.replicate_zero, pathText_goingOn_replicate, pathText_goingOn_replicate,
    String.append_left_inj] at paths
  rw [same, paths]

theorem hasRoot_iff_of_read (noQuery : '?' ∉ base) (noFragment : '#' ∉ base)
    (read : parse (String.ofList base) = .ok server) (isWeb : Http.isWebAddress server = true) :
    HasRoot base server ↔
      (∀ c ∈ (base.filter isInner).getLast?, 0x20 < c.toNat ∧ isSlash true c = false) ∧
        slashCount server.pathText ≤ 1 := by
  obtain ⟨authority, path, blanks, reads⟩ := exists_readsBase noQuery noFragment read isWeb
  rw [← reads.ends_iff, reads.pathText_eq]
  constructor
  · intro hasRoot
    obtain ⟨_, _, paths, _⟩ := id hasRoot
    have isPath : IsPathText [] := List.forall_mem_nil _
    have starts := reads.starts_of_parse isPath (paths [] isPath)
    rw [← withoutSlashes_readPath_iff starts reads.areBlanks, ← reads.pathText_eq]
    exact (hasRoot_iff_of_under fun path isPath => reads.parse_eq starts isPath).1 hasRoot
  · intro ends
    have starts : StartsPath true (path ++ blanks) := by
      rw [ends.1.1, List.append_nil]
      exact reads.starts
    rw [← withoutSlashes_readPath_iff starts reads.areBlanks, ← reads.pathText_eq] at ends
    exact ⟨authority, _, fun path isPath => reads.parse_eq starts isPath, ends⟩

/-- Which bases have the root of their server: those that end visibly and with no slash, where no
slashes are dropped at the end, if the path of the server has no more slashes at its end than are
dropped, or than the one of every path. -/
theorem hasRoot_iff {count : Nat} (noQuery : '?' ∉ base) (noFragment : '#' ∉ base)
    (read : parse (String.ofList (base ++ List.replicate count '/')) = .ok server)
    (isWeb : Http.isWebAddress server = true) :
    HasRoot base server ↔
      (count = 0 → ∀ c ∈ (base.filter isInner).getLast?, 0x20 < c.toNat ∧ isSlash true c = false) ∧
        slashCount server.pathText ≤ max 1 count := by
  cases count with
  | zero =>
      rw [List.replicate_zero, List.append_nil] at read
      rw [hasRoot_iff_of_read noQuery noFragment read isWeb]
      simp
  | succ count =>
      have areSlashes : IsPathText (List.replicate count '/') := by
        rw [IsPathText, List.forall_mem_replicate]
        exact .inr (by decide)
      -- The URL of the server has a path of slashes behind its base, too.
      have found := read
      rw [List.replicate_succ] at found
      obtain ⟨authority, entered, under⟩ :=
        parse_base_path noQuery noFragment read isWeb areSlashes found
      rw [hasRoot_iff_of_under under, Except.ok.inj (found.symm.trans (under _ areSlashes)),
        pathText_goingOn_replicate, withoutSlashes_append_slashes_eq_iff (Nat.le_max_right 1 _)
          fun less => by omega]
      simp

end

/-! ## Paths behind a query or a fragment -/

/-- Behind a mark nothing belongs to the hierarchy. -/
theorem takeWhile_isHierarchy_append {mark : Char} (isMark : isHierarchy mark = false)
    {text : List Char} (markIn : mark ∈ text) (more : List Char) :
    (text ++ more).takeWhile isHierarchy = text.takeWhile isHierarchy := by
  rw [List.takeWhile_append, if_neg]
  intro allKept
  rw [← (List.takeWhile_sublist isHierarchy).eq_of_length allKept] at markIn
  have kept := List.mem_takeWhile_imp markIn
  rw [isMark] at kept
  cases kept

theorem isHierarchy_eq_false_iff (c : Char) : isHierarchy c = false ↔ c = '?' ∨ c = '#' := by
  simp [isHierarchy, or_iff_not_imp_left]

theorem visible_of_isHierarchy {mark : Char} (isMark : isHierarchy mark = false) :
    0x20 < mark.toNat := by
  rcases (isHierarchy_eq_false_iff mark).1 isMark with rfl | rfl <;> decide

section

variable {base : List Char} {mark : Char}

theorem hierarchy_of_marked (isMark : isHierarchy mark = false) (markIn : mark ∈ base)
    (more : List Char) :
    (Parts.ofText (String.ofList (base ++ '/' :: more))).hierarchy =
      (Parts.ofText (String.ofList base)).hierarchy := by
  obtain ⟨blanks, _, cleanIs⟩ := exists_cleanBase_eq base
  have kept := mem_clean_of_visible markIn (visible_of_isHierarchy isMark)
  rw [hierarchy_eq, hierarchy_eq, clean_append_slash, cleanIs, List.append_assoc,
    takeWhile_isHierarchy_append isMark kept]

/-- Behind a query or a fragment every path is read from the scheme and the hierarchy of the
server. -/
theorem exists_divided_of_marked {count : Nat} {server : Url} (isMark : isHierarchy mark = false)
    (markIn : mark ∈ base)
    (read : parse (String.ofList (base ++ List.replicate count '/')) = .ok server)
    (isWeb : Http.isWebAddress server = true) :
    ∃ (port : Nat) (rest : List Char), SchemeKind.ofName server.scheme = .web port ∧
      readServer server.scheme (rest.dropWhile (isSlash true))
        (Parts.ofText (String.ofList (base ++ List.replicate count '/'))) = .ok server ∧
      ∀ more, parse (String.ofList (base ++ '/' :: more)) =
        readServer server.scheme (rest.dropWhile (isSlash true))
          (Parts.ofText (String.ofList (base ++ '/' :: more))) := by
  have same : (Parts.ofText (String.ofList (base ++ List.replicate count '/'))).hierarchy =
      (Parts.ofText (String.ofList base)).hierarchy := by
    cases count with
    | zero => rw [List.replicate_zero, List.append_nil]
    | succ count => exact hierarchy_of_marked isMark markIn _
  obtain ⟨port, rest, kind, divided⟩ := exists_divided_of_parse read isWeb
  rw [parse_of_divided kind divided] at read
  refine ⟨port, rest, kind, read, fun more => ?_⟩
  rw [same, ← hierarchy_of_marked isMark markIn more] at divided
  exact parse_of_divided kind divided

/-- Behind a query or a fragment no path leads anywhere. -/
theorem pathText_of_marked {count : Nat} {server url : Url} {more : List Char}
    (isMark : isHierarchy mark = false) (markIn : mark ∈ base)
    (read : parse (String.ofList (base ++ List.replicate count '/')) = .ok server)
    (isWeb : Http.isWebAddress server = true)
    (found : parse (String.ofList (base ++ '/' :: more)) = .ok url) :
    url.pathText = server.pathText := by
  obtain ⟨port, rest, kind, read, parsed⟩ := exists_divided_of_marked isMark markIn read isWeb
  rw [parsed more] at found
  obtain ⟨_, reads⟩ := exists_authority_of_readServer kind read
  have path {url : Url} {parts : Parts}
      (read : readServer server.scheme (rest.dropWhile (isSlash true)) parts = .ok url) :
      url.pathText = segmentsText (readPath true (serverRest rest)) :=
    congrArg pathText (Except.ok.inj (read.symm.trans (reads rest parts rfl)))
  rw [path read, path found]

/-- Behind a query or a fragment every path is a part of some URL. -/
theorem exists_parse_of_marked {count : Nat} {server : Url} (isMark : isHierarchy mark = false)
    (markIn : mark ∈ base)
    (read : parse (String.ofList (base ++ List.replicate count '/')) = .ok server)
    (isWeb : Http.isWebAddress server = true) (more : List Char) :
    ∃ url, parse (String.ofList (base ++ '/' :: more)) = .ok url := by
  obtain ⟨port, rest, kind, read, parsed⟩ := exists_divided_of_marked isMark markIn read isWeb
  obtain ⟨_, reads⟩ := exists_authority_of_readServer kind read
  rw [parsed more]
  exact ⟨_, reads rest _ rfl⟩

/-- A path that leads anywhere has neither query nor fragment in front of it. -/
theorem unmarked_of_pathText {count : Nat} {server url : Url} {more : List Char} {path : String}
    (read : parse (String.ofList (base ++ List.replicate count '/')) = .ok server)
    (isWeb : Http.isWebAddress server = true)
    (found : parse (String.ofList (base ++ '/' :: more)) = .ok url)
    (reaches : url.pathText = withoutSlashes server.pathText ++ path)
    (notSlashes : ∀ count, path ≠ slashes count) : '?' ∉ base ∧ '#' ∉ base := by
  have unmarked (mark : Char) (isMark : isHierarchy mark = false) : mark ∉ base := by
    intro markIn
    rw [pathText_of_marked isMark markIn read isWeb found] at reaches
    have same := reaches.symm.trans (withoutSlashes_append server.pathText).symm
    exact notSlashes _ ((String.append_right_inj _).1 same)
  exact ⟨unmarked '?' (by decide), unmarked '#' (by decide)⟩

end

end BillingClient.Url
