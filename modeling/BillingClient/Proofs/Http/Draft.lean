import BillingClient.Http.Draft

/-!
Contract: which drafts become messages, and with which headers.

A draft becomes a message when each header has a good name and value and the URL can be
reached: `Draft.message_eq_ok_iff`. The headers are then the written ones, in their order,
with names in lower case; the default user agent comes last, where no header names one.
-/

namespace BillingClient.Http

open BillingClient.Text

/-! ## Headers -/

namespace Header

/-- Headers by their names, in any case, and values. -/
def written (pairs : List (String × String)) : List Header :=
  pairs.map fun (name, value) => ⟨name.toLower, value⟩

/-- Whether a header has a good name and value. -/
def IsGood (pair : String × String) : Prop :=
  isName pair.1 = true ∧ isValue pair.2 = true

theorem written_append (left right : List (String × String)) :
    written (left ++ right) = written left ++ written right :=
  List.map_append

theorem ofText?_eq_some_iff (name value : String) (header : Header) :
    ofText? name value = some header ↔ IsGood (name, value) ∧ header = ⟨name.toLower, value⟩ := by
  unfold ofText? IsGood
  rw [← Bool.and_eq_true]
  by_cases good : (isName name && isValue value) = true
  · simp [good, eq_comm]
  · simp [good]

theorem mapM_ofText?_eq_some_iff (pairs : List (String × String)) (headers : List Header) :
    (pairs.mapM fun (name, value) => ofText? name value) = some headers ↔
      (∀ pair ∈ pairs, IsGood pair) ∧ headers = written pairs := by
  induction pairs generalizing headers with
  | nil => simp [written, eq_comm]
  | cons pair rest inductionHypothesis =>
      obtain ⟨name, value⟩ := pair
      rw [List.mapM_cons, List.forall_mem_cons]
      constructor
      · intro made
        obtain ⟨first, firstMade, made⟩ := Option.bind_eq_some_iff.1 made
        obtain ⟨others, othersMade, made⟩ := Option.bind_eq_some_iff.1 made
        obtain ⟨good, rfl⟩ := (ofText?_eq_some_iff name value first).1 firstMade
        obtain ⟨othersGood, rfl⟩ := (inductionHypothesis others).1 othersMade
        cases made
        exact ⟨⟨good, othersGood⟩, rfl⟩
      · rintro ⟨⟨good, othersGood⟩, rfl⟩
        have firstMade := (ofText?_eq_some_iff name value _).2 ⟨good, rfl⟩
        have othersMade := (inductionHypothesis _).2 ⟨othersGood, rfl⟩
        dsimp only
        rw [firstMade, othersMade]
        rfl

/-- Whether a header with a name, in any case, is among written ones. -/
theorem isSome_find?_written (pairs : List (String × String)) (name : String) :
    (find? (written pairs) name).isSome = pairs.any (·.1.toLower = name) := by
  unfold find? written
  rw [List.find?_map, Option.isSome_map, Bool.eq_iff_iff, List.find?_isSome, List.any_eq_true]
  rfl

/-- The values of the headers of a name, in order. -/
def values (headers : List Header) (name : String) : List String :=
  (headers.filter (·.name = name)).map Header.value

theorem values_append (left right : List Header) (name : String) :
    values (left ++ right) name = values left name ++ values right name := by
  unfold values
  rw [List.filter_append, List.map_append]

theorem values_eq_nil {headers : List Header} {name : String}
    (others : ∀ header ∈ headers, header.name ≠ name) : values headers name = [] := by
  unfold values
  rw [List.map_eq_nil_iff, List.filter_eq_nil_iff]
  intro header headerIn
  simpa using others header headerIn

theorem values_written (pairs : List (String × String)) (name : String) :
    values (written pairs) name = (pairs.filter (·.1.toLower = name)).map Prod.snd := by
  unfold values written
  rw [List.filter_map, List.map_map]
  rfl

theorem values_without {names : List String} {name : String} (stays : name ∉ names)
    (headers : List Header) : values (without names headers) name = values headers name := by
  unfold values without
  rw [List.filter_filter]
  congr 1
  apply List.filter_congr
  intro header _
  by_cases isNamed : header.name = name
  · simp [isNamed, stays]
  · simp [isNamed]

theorem values_replace {header : Header} {name : String} (other : header.name ≠ name)
    (headers : List Header) : values (replace header headers) name = values headers name := by
  have absent : name ∉ [header.name] := by
    rw [List.mem_singleton]
    exact Ne.symm other
  have nothing : values [header] name = [] := values_eq_nil (by simpa using other)
  unfold replace
  rw [values_append, values_without absent, nothing, List.append_nil]

end Header

/-! ## Credentials -/

/-- A digit of Base64 may stand in a header value. -/
theorem isValueChar_digit (value : Nat) :
    0x20 ≤ (Base64.digit value).toNat ∧ (Base64.digit value).toNat ≠ 0x7F := by
  by_cases small : value < 62
  · revert value
    decide
  · unfold Base64.digit
    rw [if_neg (by omega), if_neg (by omega), if_neg small]
    split
    · decide
    · decide

theorem isValueChar_of_mem_encode {bytes : List UInt8} {c : Char}
    (charIn : c ∈ Base64.encode bytes) : 0x20 ≤ c.toNat ∧ c.toNat ≠ 0x7F := by
  fun_induction Base64.encode bytes with
  | case1 => cases charIn
  | case2 | case3 =>
      simp only [List.mem_cons, List.not_mem_nil, or_false] at charIn
      rcases charIn with rfl | rfl | rfl | rfl
      all_goals first | exact isValueChar_digit _ | decide
  | case4 a b third rest inductionHypothesis =>
      simp only [List.mem_cons] at charIn
      rcases charIn with rfl | rfl | rfl | rfl | later
      all_goals first | exact isValueChar_digit _ | exact inductionHypothesis later

/-- Credentials make a good header value. -/
theorem isValue_basicCredentials (user password : String) :
    Header.isValue (basicCredentials user password) = true := by
  unfold Header.isValue basicCredentials
  rw [String.toList_append, List.all_append, String.toList_ofList (l := Base64.encode _),
    Bool.and_eq_true]
  constructor
  · decide +kernel
  · rw [List.all_eq_true]
    intro c charIn
    obtain ⟨notControl, notDelete⟩ := isValueChar_of_mem_encode charIn
    simp [notControl, notDelete]

namespace Draft

theorem name_of_mem_urlHeaders {url : Url} {pair : String × String}
    (pairIn : pair ∈ urlHeaders url) : pair.1 = "authorization" := by
  unfold urlHeaders at pairIn
  split at pairIn
  · cases pairIn
  · obtain rfl := List.mem_singleton.1 pairIn
    rfl

theorem isGood_of_mem_urlHeaders {url : Url} {pair : String × String}
    (pairIn : pair ∈ urlHeaders url) : Header.IsGood pair := by
  unfold urlHeaders at pairIn
  split at pairIn
  · cases pairIn
  · obtain rfl := List.mem_singleton.1 pairIn
    have name : Header.isName "authorization" = true := by decide +kernel
    exact ⟨name, isValue_basicCredentials _ _⟩

/-! ## Messages -/

/-- A draft becomes a message exactly when its headers are good and its URL can be reached. -/
theorem message_eq_ok_iff (draft : Draft) (agent : String) (message : Message) :
    draft.message agent = .ok message ↔
      (∀ pair ∈ draft.headers, Header.IsGood pair) ∧ isReachable (target draft.url) = true ∧
      message = ⟨draft.method, target draft.url,
        withAgent agent (Header.written (urlHeaders draft.url ++ draft.headers)), draft.body⟩ := by
  unfold Draft.message
  have good : (∀ pair ∈ urlHeaders draft.url ++ draft.headers, Header.IsGood pair) ↔
      ∀ pair ∈ draft.headers, Header.IsGood pair := by
    rw [List.forall_mem_append]
    exact and_iff_right fun _ => isGood_of_mem_urlHeaders
  cases made : (urlHeaders draft.url ++ draft.headers).mapM
      fun (name, value) => Header.ofText? name value with
  | none =>
      constructor
      · intro refused
        cases refused
      · rintro ⟨headersGood, _, _⟩
        have found := (Header.mapM_ofText?_eq_some_iff _ _).2 ⟨good.2 headersGood, rfl⟩
        rw [made] at found
        cases found
  | some headers =>
      obtain ⟨allGood, rfl⟩ := (Header.mapM_ofText?_eq_some_iff _ _).1 made
      dsimp only
      by_cases reachable : isReachable (target draft.url) = true
      · rw [if_pos reachable]
        constructor
        · intro sent
          cases sent
          exact ⟨good.1 allGood, reachable, rfl⟩
        · rintro ⟨_, _, rfl⟩
          rfl
      · rw [if_neg reachable]
        simp [reachable]

/-- A draft with good headers and a URL that cannot be reached is refused for the URL. -/
theorem message_of_not_isReachable (draft : Draft) (agent : String)
    (headersGood : ∀ pair ∈ draft.headers, Header.IsGood pair)
    (unreachable : isReachable (target draft.url) = false) :
    draft.message agent = .error (.builder (some (target draft.url))) := by
  have made := (Header.mapM_ofText?_eq_some_iff (urlHeaders draft.url ++ draft.headers) _).2
    ⟨List.forall_mem_append.2 ⟨fun _ => isGood_of_mem_urlHeaders, headersGood⟩, rfl⟩
  unfold Draft.message
  rw [made]
  simp [unreachable]

end Draft

end BillingClient.Http
