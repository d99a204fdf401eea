import BillingClient.Http.Draft
import BillingClient.Proofs.Text.Recoding
import BillingClient.Proofs.Url.Base
import BillingClient.Url.Query

/-!
Contract: the pairs in the query of a URL.

A URL read from a text has the pairs that stand between the first `?` and the first `#` of the
text (`queryPairs_parse`), whatever stands in front of these, and none of the fragment. Pairs that
are put into the query come after those that it holds: `isExtension_appendPairs`.
-/

namespace BillingClient

open BillingClient.Text

theorem Text.Form.readPairs_empty : readPairs "" = [] := by
  decide +kernel

/-- Pairs before and behind a mark between them are read one after the other. -/
theorem Text.Form.readPairs_append (before after : String) :
    readPairs (before ++ "&" ++ after) = readPairs before ++ readPairs after := by
  have ampersand : Utf8.encode "&" = [0x26] := by decide +kernel
  unfold readPairs
  rw [Utf8.encode_append, Utf8.encode_append, ampersand, List.append_assoc, List.singleton_append,
    splitAt_append_cons, List.filter_append, List.map_append]

namespace Url

/-! ## Pairs that are added -/

/-- Whether a URL is another one with some pairs behind those of its query, and nothing in its
query but what was there when there are none. -/
structure IsExtension (extended before : Url) (pairs : List (String × String)) : Prop where
  queryPairs_eq : extended.queryPairs = before.queryPairs ++ pairs
  query_eq : pairs = [] → extended.query = before.query
  fragment_eq : extended.fragment = before.fragment

theorem isExtension_appendPairs (url : Url) (pairs : List (String × String)) :
    IsExtension (url.appendPairs pairs) url pairs where
  queryPairs_eq := by
    have written := Form.readPairs_writePairs pairs
    unfold queryPairs appendPairs
    cases pairs with
    | nil => exact (List.append_nil _).symm
    | cons pair pairs =>
        cases url.query with
        | none =>
            rw [Option.getD_none, Form.readPairs_empty, List.nil_append]
            exact written
        | some before =>
            dsimp only [extendQuery]
            split
            · rename_i isEmpty
              rw [String.isEmpty_iff.1 isEmpty, Option.getD_some, Option.getD_some,
                Form.readPairs_empty, List.nil_append, written]
            · rw [Option.getD_some, Option.getD_some, Form.readPairs_append, written]
  query_eq := by
    rintro rfl
    rfl
  fragment_eq := rfl

/-- The user of a URL is no part of the query. -/
theorem IsExtension.target {extended before : Url} {pairs : List (String × String)}
    (extension : IsExtension extended before pairs) :
    IsExtension (Http.Draft.target extended) before pairs := by
  have same : (Http.Draft.target extended).query = extended.query ∧
      (Http.Draft.target extended).fragment = extended.fragment := by
    unfold Http.Draft.target
    split <;> exact ⟨rfl, rfl⟩
  constructor
  · unfold queryPairs
    rw [same.1]
    exact extension.queryPairs_eq
  · rw [same.1]
    exact extension.query_eq
  · rw [same.2]
    exact extension.fragment_eq

/-! ## Pairs of a text -/

/-- The pairs in a text of a URL, between its first `?` and its first `#`. -/
def textPairs (text : String) : List (String × String) :=
  Form.readPairs (((Parts.ofText text).query.map String.ofList).getD "")

/-- A query keeps what tells its pairs apart. -/
theorem readPairs_queryText (parts : Parts) (isSpecial : Bool) :
    Form.readPairs ((parts.queryText isSpecial).getD "") =
      Form.readPairs ((parts.query.map String.ofList).getD "") := by
  have keepsMarks : ∀ mark ∈ Form.marks, queryKeeps isSpecial mark = true :=
    List.all_eq_true.1 (by cases isSpecial <;> decide)
  have keepsDigits : ∀ code < 0x80, (hexDigit? (Char.ofNat code)).isSome = true →
      queryKeeps isSpecial (Char.ofNat code) = true := by
    cases isSpecial <;> decide
  unfold Parts.queryText
  cases parts.query with
  | none => rfl
  | some query => exact Form.readPairs_encodeChars keepsMarks keepsDigits query

/-- Whether a URL has the query and the fragment of some parts. -/
def HoldsParts (url : Url) (parts : Parts) : Prop :=
  (∃ isSpecial, url.query = parts.queryText isSpecial) ∧ url.fragment = parts.fragmentText

theorem HoldsParts.queryPairs_eq {url : Url} {text : String}
    (holds : url.HoldsParts (Parts.ofText text)) : url.queryPairs = textPairs text := by
  obtain ⟨⟨isSpecial, query⟩, _⟩ := holds
  unfold queryPairs textPairs
  rw [query, readPairs_queryText]

section

variable {scheme : String} {text : List Char} {parts : Parts} {url : Url}

theorem holdsParts_of_readServer (read : readServer scheme text parts = .ok url) :
    url.HoldsParts parts := by
  unfold readServer at read
  obtain ⟨_, _, built⟩ := exists_of_bind_eq_ok read
  cases built
  exact ⟨⟨_, rfl⟩, rfl⟩

theorem holdsParts_of_readFile (read : readFile text parts = .ok url) : url.HoldsParts parts := by
  unfold readFile at read
  dsimp only at read
  split at read
  · split at read
    · cases read
      exact ⟨⟨_, rfl⟩, rfl⟩
    · obtain ⟨_, _, built⟩ := exists_of_bind_eq_ok read
      cases built
      exact ⟨⟨_, rfl⟩, rfl⟩
  · cases read
    exact ⟨⟨_, rfl⟩, rfl⟩

theorem holdsParts_of_readPlain (read : readPlain scheme text parts = .ok url) :
    url.HoldsParts parts := by
  unfold readPlain at read
  split at read
  · exact holdsParts_of_readServer read
  · cases read
    exact ⟨⟨_, rfl⟩, rfl⟩
  · cases read
    exact ⟨⟨_, rfl⟩, rfl⟩

theorem holdsParts_of_readScheme (read : readScheme scheme text parts = .ok url) :
    url.HoldsParts parts := by
  unfold readScheme at read
  split at read
  · exact holdsParts_of_readServer read
  · exact holdsParts_of_readFile read
  · exact holdsParts_of_readPlain read

end

theorem holdsParts_of_parse {text : String} {url : Url} (read : parse text = .ok url) :
    url.HoldsParts (Parts.ofText text) := by
  unfold parse at read
  dsimp only at read
  split at read
  · exact holdsParts_of_readScheme read
  · cases read

theorem relative_parts {base url : Url} {text : List Char} {parts : Parts}
    (read : base.relative text parts = .ok url) :
    url.HoldsParts parts ∨ parts.query = none ∧ url.query = base.query ∧
      url.fragment = parts.fragmentText := by
  unfold relative at read
  dsimp only at read
  split at read
  · split at read
    · rename_i alone
      cases read
      rw [Bool.and_eq_true, Bool.and_eq_true, Option.isNone_iff_eq_none] at alone
      exact .inr ⟨alone.1.2, rfl, rfl⟩
    · cases read
  · split at read
    · cases read
      cases query : parts.query with
      | none => exact .inr ⟨rfl, by simp [Parts.queryText, query], rfl⟩
      | some query =>
          refine .inl ⟨⟨base.kind.isSpecial, ?_⟩, rfl⟩
          simp [Parts.queryText, query]
    · split at read
      · exact .inl (holdsParts_of_readServer read)
      · cases read
        exact .inl ⟨⟨_, rfl⟩, rfl⟩

/-- A reference has its own pairs, if it has a query; else there are none, or those of the base. -/
theorem resolve_parts {base url : Url} {reference : String}
    (resolves : base.resolve reference = .ok url) :
    url.HoldsParts (Parts.ofText reference) ∨ (Parts.ofText reference).query = none ∧
      url.query = base.query ∧ url.fragment = (Parts.ofText reference).fragmentText := by
  unfold resolve at resolves
  dsimp only at resolves
  split at resolves
  · exact relative_parts resolves
  · split at resolves
    · split at resolves
      · exact relative_parts resolves
      · exact .inl (holdsParts_of_readScheme resolves)
    · exact .inl (holdsParts_of_readScheme resolves)

/-! ## Texts in front -/

theorem clean_append {base rest : List Char} (starts : ∀ c ∈ rest.head?, isOuter c = false)
    (some : rest ≠ []) :
    clean (String.ofList (base ++ rest)) = cleanBase base ++ clean (String.ofList rest) := by
  have inner : rest.dropWhile isOuter = rest := by
    have whole := dropWhile_append_of_head? starts []
    rw [List.nil_append, List.dropWhile_nil, List.nil_append] at whole
    exact whole
  have left : rest.reverse.dropWhile isOuter ≠ [] := by
    rw [Ne, List.dropWhile_eq_nil_iff]
    intro allOuter
    obtain ⟨c, others, shape⟩ := List.exists_cons_of_ne_nil some
    have outer := allOuter c (by simp [shape])
    rw [starts c (by simp [shape])] at outer
    cases outer
  have trimmed : trimBoth isOuter (base ++ rest) =
      base.dropWhile isOuter ++ trimBoth isOuter rest := by
    unfold trimBoth
    rw [dropWhile_append_of_head? starts, inner, List.reverse_append, List.dropWhile_append,
      if_neg (by simpa using left), List.reverse_append, List.reverse_reverse]
  rw [clean_ofList, clean_ofList, trimmed, List.filter_append]
  rfl

theorem mem_of_mem_clean {text : List Char} {c : Char} (charIn : c ∈ clean (String.ofList text)) :
    c ∈ text := by
  rw [clean_ofList] at charIn
  have inTrimmed := List.mem_reverse.1 (List.mem_filter.1 charIn).1
  have inFront := List.mem_reverse.1 ((List.dropWhile_sublist _).subset inTrimmed)
  exact (List.dropWhile_sublist _).subset inFront

/-- Two texts that differ in what stands in front are cleaned to texts that do. What is in front of
the one alone is blank. -/
theorem exists_clean_append (base text : String) : ∃ front blanks rest,
    clean (base ++ text) = front ++ rest ∧ clean text = blanks ++ rest ∧
      (∀ c ∈ front, c ∈ base.toList ∨ isOuter c = true) ∧ ∀ c ∈ blanks, isOuter c = true := by
  have whole : base ++ text =
      String.ofList ((base.toList ++ text.toList.takeWhile isOuter) ++
        text.toList.dropWhile isOuter) := by
    rw [List.append_assoc, List.takeWhile_append_dropWhile, String.ofList_append,
      String.ofList_toList, String.ofList_toList]
  have alone : text = String.ofList (text.toList.takeWhile isOuter ++
      text.toList.dropWhile isOuter) := by
    rw [List.takeWhile_append_dropWhile, String.ofList_toList]
  have areOuter : ∀ c ∈ text.toList.takeWhile isOuter, isOuter c = true := fun c charIn =>
    List.mem_takeWhile_imp charIn
  have starts : ∀ c ∈ (text.toList.dropWhile isOuter).head?, isOuter c = false := by
    intro c isFirst
    have found := List.head?_dropWhile_not isOuter text.toList
    rw [isFirst] at found
    simpa using found
  generalize text.toList.takeWhile isOuter = blanks at whole alone areOuter
  generalize text.toList.dropWhile isOuter = rest at whole alone starts
  have inFront {c : Char} (charIn : c ∈ base.toList ++ blanks) :
      c ∈ base.toList ∨ isOuter c = true :=
    (List.mem_append.1 charIn).imp_right (areOuter c)
  rw [whole, alone]
  by_cases none : rest = []
  · subst none
    rw [List.append_nil, List.append_nil]
    exact ⟨_, _, [], (List.append_nil _).symm, (List.append_nil _).symm,
      fun c charIn => inFront (mem_of_mem_clean charIn),
      fun c charIn => areOuter c (mem_of_mem_clean charIn)⟩
  · exact ⟨_, _, _, clean_append starts none, clean_append starts none,
      fun c charIn => inFront (mem_of_mem_cleanBase charIn),
      fun c charIn => areOuter c (mem_of_mem_cleanBase charIn)⟩

theorem divideOnce_append {mark : Char} {front : List Char} (absent : mark ∉ front)
    (rest : List Char) :
    divideOnce mark (front ++ rest) =
      (front ++ (divideOnce mark rest).1, (divideOnce mark rest).2) := by
  have others : ∀ c ∈ front, decide (c ≠ mark) = true := by
    intro c charIn
    rw [decide_eq_true_eq]
    rintro rfl
    exact absent charIn
  unfold divideOnce
  rw [List.dropWhile_append_of_pos others, List.takeWhile_append_of_pos others]
  split <;> rfl

/-- What stands in front without marks is in no other part than the hierarchy. -/
theorem parts_of_clean {text : String} {front rest : List Char} (cleaned : clean text = front ++ rest)
    (noQuery : '?' ∉ front) (noFragment : '#' ∉ front) :
    (Parts.ofText text).query = (divideOnce '?' (divideOnce '#' rest).1).2 ∧
      (Parts.ofText text).fragment = (divideOnce '#' rest).2 := by
  unfold Parts.ofText
  rw [cleaned, divideOnce_append noFragment]
  dsimp only
  rw [divideOnce_append noQuery]
  exact ⟨rfl, rfl⟩

/-- A base without query and fragment leaves those of the text behind it as they are. -/
theorem parts_ofText_append {base : String} (noQuery : '?' ∉ base.toList)
    (noFragment : '#' ∉ base.toList) (text : String) :
    (Parts.ofText (base ++ text)).query = (Parts.ofText text).query ∧
      (Parts.ofText (base ++ text)).fragment = (Parts.ofText text).fragment := by
  obtain ⟨front, blanks, rest, whole, alone, inFront, areOuter⟩ := exists_clean_append base text
  have frontFree {mark : Char} (visible : isOuter mark = false) (notBase : mark ∉ base.toList) :
      mark ∉ front := by
    intro markIn
    rcases inFront mark markIn with inBase | outer
    · exact notBase inBase
    · rw [visible] at outer
      cases outer
  have blanksFree {mark : Char} (visible : isOuter mark = false) : mark ∉ blanks := by
    intro markIn
    rw [areOuter mark markIn] at visible
    cases visible
  obtain ⟨query, fragment⟩ := parts_of_clean whole (frontFree rfl noQuery) (frontFree rfl noFragment)
  obtain ⟨ownQuery, ownFragment⟩ := parts_of_clean alone (blanksFree rfl) (blanksFree rfl)
  exact ⟨query.trans ownQuery.symm, fragment.trans ownFragment.symm⟩

theorem textPairs_append {base : String} (noQuery : '?' ∉ base.toList)
    (noFragment : '#' ∉ base.toList) (text : String) : textPairs (base ++ text) = textPairs text := by
  unfold textPairs
  rw [(parts_ofText_append noQuery noFragment text).1]

/-- A text without `?` has no pairs. -/
theorem textPairs_eq_nil {text : String} (noQuery : '?' ∉ text.toList) : textPairs text = [] := by
  have noBody : '?' ∉ (divideOnce '#' (clean text)).1 := by
    intro markIn
    have inClean : '?' ∈ clean text := by
      unfold divideOnce at markIn
      split at markIn
      · exact markIn
      · exact (List.takeWhile_sublist _).subset markIn
    rw [← @String.ofList_toList text] at inClean
    exact noQuery (mem_of_mem_clean inClean)
  unfold textPairs Parts.ofText
  dsimp only
  rw [divideOnce_of_not_mem noBody]
  exact Form.readPairs_empty

end Url

end BillingClient
