import BillingClient.Proofs.Url.Origin
import BillingClient.Proofs.Url.Query

/-!
Contract: URLs without a user.

A user stands in front of an `@`. What a reference without `@` leads to has a user only where the
base has one: `hasNoUser_resolve`.
-/

namespace BillingClient.Url

open BillingClient.Text

/-- Whether a URL has neither a user name nor a password. -/
def HasNoUser (url : Url) : Prop :=
  ∀ authority ∈ url.authority, authority.username = "" ∧ authority.password = ""

theorem HasNoUser.of_authority_eq {left right : Url} (noUser : left.HasNoUser)
    (same : right.authority = left.authority) : right.HasNoUser := by
  unfold HasNoUser
  rw [same]
  exact noUser

theorem HasNoUser.appendPairs {url : Url} (noUser : url.HasNoUser)
    (pairs : List (String × String)) : (url.appendPairs pairs).HasNoUser :=
  noUser

/-! ## Requests -/

theorem HasNoUser.urlUser?_eq_none {url : Url} (noUser : url.HasNoUser) :
    Http.Draft.urlUser? url = none := by
  have nothing : Http.Draft.plainPart? "" = some "" := by decide +kernel
  unfold Http.Draft.urlUser?
  cases isAuthority : url.authority with
  | none => rfl
  | some authority =>
      obtain ⟨noName, noPassword⟩ := noUser authority isAuthority
      rw [Option.bind_eq_bind, Option.bind_some, noName, noPassword, nothing]
      rfl

/-- No credentials come from a URL without a user. -/
theorem HasNoUser.urlHeaders_eq_nil {url : Url} (noUser : url.HasNoUser) :
    Http.Draft.urlHeaders url = [] := by
  unfold Http.Draft.urlHeaders
  rw [noUser.urlUser?_eq_none]

/-! ## Texts -/

theorem divideUser_of_not_mem {text : List Char} (noMark : '@' ∉ text) :
    divideUser text = (none, text) := by
  unfold divideUser
  cases divided : divideLast? '@' text with
  | none => rfl
  | some parts =>
      exfalso
      apply noMark
      rw [divideLast?_eq divided]
      exact List.mem_append_right _ List.mem_cons_self

section

variable {kind : SchemeKind} {scheme : String} {text : List Char} {parts : Parts} {url : Url}
  (noMark : '@' ∉ text)

include noMark

theorem noUser_of_readAuthority {isLast : Bool} {authority : Authority} {rest : List Char}
    (read : readAuthority kind isLast text = .ok (authority, rest)) :
    authority.username = "" ∧ authority.password = "" := by
  have unmarked : '@' ∉ text.takeWhile (!isSlash kind.isSpecial ·) :=
    fun markIn => noMark ((List.takeWhile_sublist _).subset markIn)
  unfold readAuthority at read
  dsimp only at read
  rw [divideUser_of_not_mem unmarked] at read
  split at read
  · cases read
  · obtain ⟨⟨found, left⟩, partsRead, built⟩ := exists_of_bind_eq_ok read
    cases built
    unfold readParts at partsRead
    dsimp only at partsRead
    obtain ⟨host, _, partsRead⟩ := exists_of_bind_eq_ok partsRead
    obtain ⟨⟨port, left⟩, _, partsRead⟩ := exists_of_bind_eq_ok partsRead
    dsimp only at partsRead
    split at partsRead
    · cases partsRead
    · cases partsRead
      exact ⟨rfl, rfl⟩

theorem hasNoUser_of_readServer (read : readServer scheme text parts = .ok url) :
    url.HasNoUser := by
  unfold readServer at read
  obtain ⟨⟨authority, rest⟩, authorityRead, built⟩ := exists_of_bind_eq_ok read
  cases built
  intro found isFound
  cases isFound
  exact noUser_of_readAuthority noMark authorityRead

omit noMark in
/-- No file has a user. -/
theorem hasNoUser_of_readFile (read : readFile text parts = .ok url) : url.HasNoUser := by
  suffices hosted : ∃ host, url.authority = some ⟨"", "", host, none⟩ by
    obtain ⟨host, isAuthority⟩ := hosted
    intro found isFound
    cases isAuthority.symm.trans isFound
    exact ⟨rfl, rfl⟩
  unfold readFile at read
  dsimp only at read
  split at read
  · split at read
    · cases read
      exact ⟨_, rfl⟩
    · obtain ⟨host, _, built⟩ := exists_of_bind_eq_ok read
      cases built
      exact ⟨host, rfl⟩
  · cases read
    exact ⟨_, rfl⟩

theorem hasNoUser_of_readPlain (read : readPlain scheme text parts = .ok url) :
    url.HasNoUser := by
  unfold readPlain at read
  split at read
  · refine hasNoUser_of_readServer (fun markIn => noMark ?_) read
    exact List.mem_cons_of_mem _ (List.mem_cons_of_mem _ markIn)
  · cases read
    exact fun _ isFound => nomatch isFound
  · cases read
    exact fun _ isFound => nomatch isFound

theorem hasNoUser_of_readScheme (read : readScheme scheme text parts = .ok url) :
    url.HasNoUser := by
  unfold readScheme at read
  split at read
  · exact hasNoUser_of_readServer
      (fun markIn => noMark ((List.dropWhile_sublist _).subset markIn)) read
  · exact hasNoUser_of_readFile read
  · exact hasNoUser_of_readPlain noMark read

theorem hasNoUser_relative {base : Url} (noUser : base.HasNoUser)
    (leads : base.relative text parts = .ok url) : url.HasNoUser := by
  unfold relative at leads
  dsimp only at leads
  split at leads
  · split at leads
    · cases leads
      exact noUser
    · cases leads
  · split at leads
    · cases leads
      exact noUser
    · split at leads
      · refine hasNoUser_of_readServer (fun markIn => noMark ?_) leads
        split at markIn <;> exact List.mem_of_mem_drop markIn
      · cases leads
        exact noUser

end

/-- A reference without `@` leads to no user that the base does not have. -/
theorem hasNoUser_resolve {base url : Url} {reference : String} (noUser : base.HasNoUser)
    (noMark : '@' ∉ reference.toList) (resolves : base.resolve reference = .ok url) :
    url.HasNoUser := by
  have unmarked : '@' ∉ (Parts.ofText reference).hierarchy := by
    rw [hierarchy_eq]
    intro markIn
    rw [← String.ofList_toList (s := reference)] at markIn
    exact noMark (mem_of_mem_clean ((List.takeWhile_sublist _).subset markIn))
  unfold resolve at resolves
  dsimp only at resolves
  split at resolves
  · exact hasNoUser_relative unmarked noUser resolves
  · rename_i scheme rest divided
    have unmarkedRest : '@' ∉ rest := by
      obtain ⟨name, whole, _⟩ := (divideScheme?_eq_some_iff _ _ _).1 divided
      rw [whole, List.mem_append, List.mem_cons, not_or, not_or] at unmarked
      exact unmarked.2.2
    split at resolves
    · split at resolves
      · exact hasNoUser_relative unmarkedRest noUser resolves
      · exact hasNoUser_of_readScheme unmarkedRest resolves
    · exact hasNoUser_of_readScheme unmarkedRest resolves

end BillingClient.Url
