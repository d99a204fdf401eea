import BillingClient.Url.Authority

/-!
Contract: the authority of a web address does not depend on the path after it.

An authority ends at the first slash. Main statement: `readAuthority_path`, by which a path
may be put in place of another one.
-/

namespace BillingClient.Url

/-- What comes of two steps comes of the second, after the first has come to a result. -/
theorem exists_of_bind_eq_ok {ε α β : Type} {first : Except ε α} {next : α → Except ε β}
    {result : β} (both : first >>= next = .ok result) :
    ∃ found, first = .ok found ∧ next found = .ok result := by
  cases first with
  | error error => cases both
  | ok found => exact ⟨found, rfl, both⟩

/-- Two steps fail with the first, or with the second after the first has come to a result. -/
theorem error_or_of_bind_eq_error {ε α β : Type} {first : Except ε α} {next : α → Except ε β}
    {error : ε} (both : first >>= next = .error error) :
    first = .error error ∨ ∃ found, first = .ok found ∧ next found = .error error := by
  cases first with
  | error other =>
      cases both
      exact .inl rfl
  | ok found => exact .inr ⟨found, rfl, both⟩

/-- Whether a text is empty or starts with a slash. -/
def StartsPath (isSpecial : Bool) (text : List Char) : Prop :=
  ∀ c ∈ text.head?, isSlash isSpecial c = true

theorem StartsPath.append {isSpecial : Bool} {left right : List Char}
    (leftStarts : StartsPath isSpecial left) (rightStarts : StartsPath isSpecial right) :
    StartsPath isSpecial (left ++ right) := by
  cases left with
  | nil => exact rightStarts
  | cons c left => exact leftStarts

theorem takeWhile_of_startsPath {isSpecial : Bool} {whole path : List Char}
    (noSlash : ∀ c ∈ whole, isSlash isSpecial c = false) (starts : StartsPath isSpecial path) :
    (whole ++ path).takeWhile (!isSlash isSpecial ·) = whole ∧
      (whole ++ path).dropWhile (!isSlash isSpecial ·) = path := by
  have every : ∀ c ∈ whole, (!isSlash isSpecial c) = true := by
    intro c charIn
    rw [noSlash c charIn]
    rfl
  rw [List.takeWhile_append_of_pos every, List.dropWhile_append_of_pos every]
  cases path with
  | nil => simp
  | cons c rest =>
      have slash := starts c rfl
      simp [slash]

/-! ## Parts of an authority -/

theorem mem_of_mem_divideLast? {mark c : Char} {text before after : List Char}
    (divided : divideLast? mark text = some (before, after)) (charIn : c ∈ after) : c ∈ text := by
  unfold divideLast? at divided
  split at divided
  · contradiction
  · cases divided
    exact List.mem_reverse.1 (List.takeWhile_sublist _ |>.subset (List.mem_reverse.1 charIn))

theorem mem_of_mem_divideHost {isInside : Bool} {c : Char} {text port : List Char}
    (divided : (divideHost isInside text).2 = some port) (charIn : c ∈ port) : c ∈ text := by
  induction text generalizing isInside with
  | nil => cases divided
  | cons first rest inductionHypothesis =>
      unfold divideHost at divided
      split at divided
      · cases divided
        exact List.mem_cons_of_mem _ charIn
      · exact List.mem_cons_of_mem _ (inductionHypothesis divided)

/-- A port is the digits at the front, which nothing but a backslash follows. -/
theorem readPort_ok {kind : SchemeKind} {text rest : List Char} {port : Option Nat}
    (read : readPort kind text = .ok (port, rest)) :
    rest = text.dropWhile Char.isDigit ∧ ∀ c ∈ rest.head?, c = '\\' := by
  unfold readPort at read
  dsimp only at read
  split at read
  · contradiction
  · rename_i ends
    have backslash : ∀ c ∈ (text.dropWhile Char.isDigit).head?, c = '\\' := by
      intro c isFirst
      apply Decidable.of_not_not
      intro other
      apply ends
      rw [isFirst]
      simpa using other
    split at read
    · cases read
      exact ⟨rfl, backslash⟩
    · split at read
      · contradiction
      · cases read
        exact ⟨rfl, backslash⟩

/-- Digits of a port are followed by a backslash or nothing. -/
theorem rest_of_readPort {kind : SchemeKind} {text rest : List Char} {port : Option Nat}
    (read : readPort kind text = .ok (port, rest)) (noBackslash : '\\' ∉ text) : rest = [] := by
  obtain ⟨rfl, ends⟩ := readPort_ok read
  rw [← List.head?_eq_none_iff, Option.eq_none_iff_forall_ne_some]
  intro c isFirst
  have dropped := List.mem_of_mem_head? isFirst
  rw [ends c isFirst] at dropped
  exact noBackslash ((List.dropWhile_sublist _).subset dropped)

/-! ## The whole authority -/

theorem mem_of_mem_server {whole : List Char} {c : Char} (charIn : c ∈ (divideUser whole).2) :
    c ∈ whole := by
  unfold divideUser at charIn
  split at charIn
  · exact charIn
  · rename_i divided
    exact mem_of_mem_divideLast? divided charIn

theorem backslash_not_mem_server {whole : List Char}
    (noSlash : ∀ c ∈ whole, isSlash true c = false) : '\\' ∉ (divideUser whole).2 := by
  intro charIn
  have slash := noSlash _ (mem_of_mem_server charIn)
  revert slash
  decide

variable {defaultPort : Nat}

/-- A web address has a server, and nothing is left of it but a backslash and what follows. -/
theorem readParts_ok {user : Option (List Char)} {server rest : List Char} {authority : Authority}
    (read : readParts (.web defaultPort) user server = .ok (authority, rest))
    (noBackslash : '\\' ∉ server) : server ≠ [] ∧ rest = [] := by
  unfold readParts at read
  obtain ⟨username, password⟩ := readUser (user.getD [])
  dsimp only at read
  obtain ⟨host, hosted, read⟩ := exists_of_bind_eq_ok read
  obtain ⟨⟨port, left⟩, ported, read⟩ := exists_of_bind_eq_ok read
  dsimp only at read
  split at read
  · cases read
  · cases read
    constructor
    · rintro rfl
      cases hosted
    · refine rest_of_readPort ported fun charIn => noBackslash ?_
      cases portText : (divideHost false server).2 with
      | none =>
          rw [portText] at charIn
          cases charIn
      | some text =>
          rw [portText] at charIn
          exact mem_of_mem_divideHost portText charIn

/-- Another path after an authority is read with the same authority. -/
theorem readAuthority_path {isLast : Bool} {whole path rest : List Char} {authority : Authority}
    (noSlash : ∀ c ∈ whole, isSlash true c = false) (starts : StartsPath true path)
    (read : readAuthority (.web defaultPort) isLast (whole ++ path) = .ok (authority, rest)) :
    whole ≠ [] ∧ ∀ (last : Bool) (other : List Char), StartsPath true other →
      readAuthority (.web defaultPort) last (whole ++ other) = .ok (authority, other) := by
  have special : (SchemeKind.web defaultPort).isSpecial = true := rfl
  have noBackslash := backslash_not_mem_server noSlash
  obtain ⟨takes, drops⟩ := takeWhile_of_startsPath noSlash starts
  unfold readAuthority at read
  dsimp only at read
  rw [special, takes, drops] at read
  split at read
  · cases read
  · obtain ⟨⟨found, left⟩, parts, read⟩ := exists_of_bind_eq_ok read
    cases read
    obtain ⟨hasServer, rfl⟩ := readParts_ok parts noBackslash
    constructor
    · rintro rfl
      exact hasServer rfl
    · intro last other otherStarts
      -- There is a server, so it does not matter whether anything follows.
      obtain ⟨takesOther, dropsOther⟩ := takeWhile_of_startsPath noSlash otherStarts
      have notEmpty : (divideUser whole).2.isEmpty = false := by
        simpa using hasServer
      unfold readAuthority
      dsimp only
      rw [special, takesOther, dropsOther, notEmpty, Bool.and_false, Bool.false_and,
        if_neg Bool.false_ne_true, parts]
      rfl

end BillingClient.Url
