import BillingClient.Proofs.Vocabulary.Faithful
import BillingClient.Proofs.Vocabulary.UuidForm
import BillingClient.Vocabulary.Registry

/-!
Contract: the texts of the vocabulary agree wherever they are read or written.

`Lexicon.all` are the types of terms: the identifiers of every kind of object, the currencies, and
every wordlist. A term has one text, which its JSON form holds as well, and a text names the same
term, or none, alone and as a JSON string. Main statement: `Lexicon.agrees`.
-/

namespace BillingClient.Vocabulary

open BillingClient.Json (Codec StringText Value)
open BillingClient.Text

/-! ## Refusals -/

/-- The text that is refused. -/
def Refusal.text : Refusal → String
  | .identifier text => text
  | .currency text => text
  | .word _ text => text

theorem Identifier.text_refused {kind : ObjectKind} {text : String} {refusal : Refusal}
    (refused : (parse text : Except Refusal (Identifier kind)) = .error refusal) :
    refusal.text = text := by
  unfold parse at refused
  split at refused <;> cases refused
  rfl

theorem Currency.text_refused {text : String} {refusal : Refusal}
    (refused : parse text = .error refusal) : refusal.text = text := by
  unfold parse at refused
  split at refused <;> cases refused
  rfl

theorem Wordlist.text_refused {α : Type} [Wordlist α] {text : String} {refusal : Refusal}
    (refused : (parse text : Except Refusal α) = .error refusal) : refusal.text = text := by
  unfold parse at refused
  split at refused <;> cases refused
  rfl

/-! ## Identifiers -/

namespace Identifier

variable {kind : ObjectKind}

theorem parse_eq_ok_iff_ofText? (text : String) (id : Identifier kind) :
    parse text = .ok id ↔ Uuid.ofText? text = some id.uuid := by
  unfold parse
  cases Uuid.ofText? text with
  | none => simp
  | some uuid =>
      cases id
      simp

/-- The text of an identifier has the digits of its UUID. -/
theorem text_eq_iff {digits : List Char} (areDigits : Uuid.AreDigits digits)
    (id : Identifier kind) : id.text = String.ofList (Uuid.hyphenate (digits.map Char.toLower)) ↔
      id.uuid.digits = digits.map Char.toLower := by
  have lower : ∀ c ∈ Uuid.hexAlphabet, c.toLower ≠ '-' := List.all_iff_forall_prop.1 (by decide)
  have noHyphen : ∀ c ∈ digits.map Char.toLower, c ≠ '-' := by
    rw [List.forall_mem_map]
    exact fun c charIn => lower c (areDigits.areHex c charIn)
  have digitsOf (uuid : Uuid) : (Uuid.hyphenate uuid.digits).filter (· ≠ '-') = uuid.digits :=
    Uuid.filter_hyphenate (Uuid.no_hyphen_in_hexDigits 32 uuid.value)
  constructor
  · intro same
    have chars := congrArg String.toList same
    rw [text, Uuid.text, String.toList_ofList, String.toList_ofList] at chars
    rw [← digitsOf, chars, Uuid.filter_hyphenate noHyphen]
  · intro same
    rw [text, Uuid.text, same]

/-- A text names an identifier exactly when it is one of the forms of 32 digits, which are then
those of the identifier's own text in lower case. -/
theorem parse_eq_ok_iff (text : String) (id : Identifier kind) :
    parse text = .ok id ↔ ∃ digits, Uuid.AreDigits digits ∧ Uuid.IsForm digits text.toList ∧
      id.text = String.ofList (Uuid.hyphenate (digits.map Char.toLower)) := by
  rw [parse_eq_ok_iff_ofText?, Uuid.ofText?_eq_some_iff]
  refine exists_congr fun digits => and_congr_right fun areDigits => and_congr_right fun _ => ?_
  exact (id.text_eq_iff areDigits).symm

/-- Every form of 32 digits names an identifier. -/
theorem exists_parse_of_isForm (kind : ObjectKind) {digits : List Char} {text : String}
    (areDigits : Uuid.AreDigits digits) (form : Uuid.IsForm digits text.toList) :
    ∃ id : Identifier kind, parse text = .ok id ∧
      id.text = String.ofList (Uuid.hyphenate (digits.map Char.toLower)) := by
  obtain ⟨value, small, _, written⟩ := Uuid.exists_hexValue? areDigits.areHex
  rw [areDigits.length] at small written
  let id : Identifier kind := ⟨⟨value, small⟩⟩
  have own : id.text = String.ofList (Uuid.hyphenate (digits.map Char.toLower)) :=
    (id.text_eq_iff areDigits).2 written
  exact ⟨id, (parse_eq_ok_iff text id).2 ⟨digits, areDigits, form, own⟩, own⟩

/-- Two texts name one identifier exactly when their digits are the same up to case. -/
theorem parse_eq_parse_iff (kind : ObjectKind) {left right : List Char} {first second : String}
    (leftDigits : Uuid.AreDigits left) (rightDigits : Uuid.AreDigits right)
    (firstForm : Uuid.IsForm left first.toList) (secondForm : Uuid.IsForm right second.toList) :
    (parse first : Except Refusal (Identifier kind)) = parse second ↔
      left.map Char.toLower = right.map Char.toLower := by
  obtain ⟨id, firstRead, firstText⟩ := exists_parse_of_isForm kind leftDigits firstForm
  obtain ⟨other, secondRead, secondText⟩ := exists_parse_of_isForm kind rightDigits secondForm
  rw [firstRead, secondRead, Except.ok.injEq]
  constructor
  · rintro rfl
    rw [← (id.text_eq_iff leftDigits).1 firstText, (id.text_eq_iff rightDigits).1 secondText]
  · intro same
    have digits := (id.text_eq_iff leftDigits).1 firstText
    rw [same, ← (other.text_eq_iff rightDigits).1 secondText] at digits
    have uuids := Uuid.eq_of_digits digits
    cases id
    cases other
    cases uuids
    rfl

/-- The text of an identifier has 36 characters: lower-case digits and hyphens. -/
theorem text_chars (id : Identifier kind) : id.text.toList.length = 36 ∧
    ∀ c ∈ id.text.toList, c = '-' ∨ c ∈ "0123456789abcdef".toList := by
  have every : ∀ digit < 16, lowerHexDigit digit ∈ "0123456789abcdef".toList := by decide
  refine ⟨Uuid.length_text id.uuid, fun c charIn => ?_⟩
  rcases Uuid.mem_text charIn with hyphen | ⟨digit, small, rfl⟩
  · exact .inl hyphen
  · exact .inr (every digit small)

end Identifier

/-! ## Currencies -/

/-- A text names a currency exactly when it is three letters from A to Z. -/
theorem Currency.exists_parse_iff (code : String) :
    (∃ currency, parse code = .ok currency) ↔
      ∃ first second third, code.toList = [first, second, third] ∧
        ∀ letter ∈ code.toList, 'A' ≤ letter ∧ letter ≤ 'Z' := by
  have accepted : (∃ currency, parse code = .ok currency) ↔ isCurrencyCode code = true := by
    unfold parse
    split <;> simp [*]
  rw [accepted]
  unfold isCurrencyCode
  simp only [Bool.and_eq_true, beq_iff_eq, List.all_eq_true, decide_eq_true_eq,
    List.length_eq_three]
  constructor
  · rintro ⟨⟨first, second, third, letters⟩, inRange⟩
    exact ⟨first, second, third, letters, inRange⟩
  · rintro ⟨first, second, third, letters, inRange⟩
    exact ⟨⟨first, second, third, letters⟩, inRange⟩

/-! ## Lexicons -/

/-- How the terms of a type are read from a text and written as one, and their JSON form. -/
structure Lexicon : Type 1 where
  {Term : Type}
  name : String
  parse : String → Except Refusal Term
  text : Term → String
  codec : Codec Term

/-- Whether a JSON text is a string, however it is written. -/
def WritesString (bytes : List UInt8) (text : String) : Prop :=
  ∃ units, Json.read bytes = some (.string units) ∧ StringText.string? units = some text

theorem writesString_text (text : String) :
    WritesString (Utf8.encode (Value.string text).text) text :=
  ⟨.of text, Json.read_encode_text (.string text), StringText.string?_of text⟩

namespace Lexicon

/-- The identifiers of a kind of object. -/
abbrev identifiers (kind : ObjectKind) : Lexicon :=
  ⟨kind.label, Identifier.parse, Identifier.text, (Identifier.codec : Codec (Identifier kind))⟩

abbrev currencies : Lexicon :=
  ⟨"Currency", Currency.parse, Currency.code, Currency.codec⟩

/-- The words of a wordlist. -/
abbrev words (α : Type) [Wordlist α] : Lexicon :=
  ⟨Wordlist.kind α, Wordlist.parse, Wordlist.word, (Wordlist.codec : Codec α)⟩

/-- Every type of terms. -/
def all : List Lexicon :=
  ObjectKind.all.map identifiers ++ currencies :: [
    words AuditLevel,
    words ObjectType,
    words ProductCategory,
    words BillingPeriod,
    words PhaseType,
    words BillingActionPolicy,
    words EntitlementActionPolicy,
    words EntitlementState,
    words InvoiceStatus,
    words InvoiceItemType,
    words TransactionType,
    words TransactionStatus,
    words UsageType,
    words BillingMode,
    words TierBlockPolicy,
    words DryRunType
  ]

/-- Whether a text means the same alone and as a JSON string, and every term has one text. -/
structure Agrees (lexicon : Lexicon) : Prop where
  ofBytes?_eq : ∀ bytes text, WritesString bytes text →
    lexicon.codec.ofBytes? bytes = (lexicon.parse text).toOption
  text_refused : ∀ text refusal, lexicon.parse text = .error refusal → refusal.text = text
  encode_eq : ∀ term, lexicon.codec.encode term = .string (lexicon.text term)
  parse_text : ∀ term, lexicon.parse (lexicon.text term) = .ok term

/-- A type whose codec reads a JSON string as its text is read alone. -/
theorem Agrees.ofStrings {lexicon : Lexicon}
    (strings : ∀ place units, lexicon.codec.decode place (.string units) =
      (StringText.string? units).bind fun text => (lexicon.parse text).toOption)
    (text_refused : ∀ text refusal, lexicon.parse text = .error refusal → refusal.text = text)
    (encode_eq : ∀ term, lexicon.codec.encode term = .string (lexicon.text term))
    (parse_text : ∀ term, lexicon.parse (lexicon.text term) = .ok term) : lexicon.Agrees where
  ofBytes?_eq := by
    rintro bytes text ⟨units, structured, isText⟩
    rw [Codec.ofBytes?, structured, Option.bind_some, strings, isText, Option.bind_some]
  text_refused := text_refused
  encode_eq := encode_eq
  parse_text := parse_text

theorem agrees_identifiers (kind : ObjectKind) : (identifiers kind).Agrees := by
  refine .ofStrings (fun _ _ => rfl) (fun _ _ refused => Identifier.text_refused refused)
    (fun _ => rfl) ?_
  dsimp only
  exact Identifier.parse_text

theorem agrees_currencies : currencies.Agrees :=
  .ofStrings (fun _ _ => rfl) (fun _ _ refused => Currency.text_refused refused) (fun _ => rfl)
    Currency.parse_code

theorem agrees_words (α : Type) [Wordlist α] [LawfulWordlist α] : (words α).Agrees := by
  have read (text : String) :
      (Wordlist.parse text : Except Refusal α).toOption = Wordlist.ofWord? text := by
    unfold Wordlist.parse
    cases (Wordlist.ofWord? text : Option α) <;> rfl
  have strings : ∀ place units, (words α).codec.decode place (.string units) =
      (StringText.string? units).bind fun text =>
        (Wordlist.parse text : Except Refusal α).toOption := by
    intro place units
    simp only [read]
    rfl
  have named (value : α) : Wordlist.parse (Wordlist.word value) = .ok value := by
    rw [Wordlist.parse, Wordlist.ofWord?_word]
  exact .ofStrings strings (fun _ _ refused => Wordlist.text_refused refused) (fun _ => rfl) named

/-- Every type of terms has one text for each term, alone and in JSON, and reads a text alike in
both. Identifiers are read from the forms of 32 digits and no others, where the digits may have
either case, and so may `urn:uuid:`; currencies from three letters from A to Z. -/
theorem agrees :
    all.map name =
      ObjectKind.all.map ObjectKind.label ++ "Currency" :: Dictionary.all.map Dictionary.kind ∧
    (∀ text, WritesString (Utf8.encode (Value.string text).text) text) ∧
    (∀ lexicon ∈ all, lexicon.Agrees) ∧
    (∀ kind : ObjectKind, kind ∈ ObjectKind.all ∧
      (∀ text (id : Identifier kind), Identifier.parse text = .ok id ↔
        ∃ digits, Uuid.AreDigits digits ∧ Uuid.IsForm digits text.toList ∧
          id.text = String.ofList (Uuid.hyphenate (digits.map Char.toLower))) ∧
      (∀ id : Identifier kind, id.text.toList.length = 36 ∧
        ∀ c ∈ id.text.toList, c = '-' ∨ c ∈ "0123456789abcdef".toList) ∧
      ∀ left right first second, Uuid.AreDigits left → Uuid.AreDigits right →
        Uuid.IsForm left (String.toList first) → Uuid.IsForm right (String.toList second) →
        ((Identifier.parse first : Except Refusal (Identifier kind)) = Identifier.parse second ↔
          left.map Char.toLower = right.map Char.toLower)) ∧
    ∀ code, (∃ currency, Currency.parse code = .ok currency) ↔
      ∃ first second third, code.toList = [first, second, third] ∧
        ∀ letter ∈ code.toList, 'A' ≤ letter ∧ letter ≤ 'Z' := by
  refine ⟨rfl, writesString_text, ?_, fun kind => ⟨?_, ?_, ?_, ?_⟩, Currency.exists_parse_iff⟩
  · unfold all
    rw [List.forall_mem_append, List.forall_mem_map, List.forall_mem_cons]
    refine ⟨fun kind _ => agrees_identifiers kind, agrees_currencies, ?_⟩
    simp only [List.forall_mem_cons, agrees_words, true_and]
    exact List.forall_mem_nil _
  · cases kind <;> decide
  · exact Identifier.parse_eq_ok_iff
  · exact Identifier.text_chars
  · intro left right first second leftDigits rightDigits firstForm secondForm
    exact Identifier.parse_eq_parse_iff kind leftDigits rightDigits firstForm secondForm

/-- A word with an escaped letter, and an identifier in braces and in upper case. -/
theorem agrees_escaped :
    WritesString (Utf8.encode "\"\\u0046ULL\"") "FULL" ∧
    (Wordlist.codec : Codec AuditLevel).ofBytes? (Utf8.encode "\"\\u0046ULL\"") = some .full ∧
    (Identifier.parse "\x7b2AD52F53-85AE-408A-9879-32A7E59DD03D\x7d" :
        Except Refusal PaymentId) =
      Identifier.parse "2ad52f5385ae408a987932a7e59dd03d" := by
  have writes : WritesString (Utf8.encode "\"\\u0046ULL\"") "FULL" :=
    ⟨[.codeUnit 0x46, .char 'U', .char 'L', .char 'L'], rfl, by decide⟩
  have listed : words AuditLevel ∈ all := List.mem_append_right _ (.tail _ (.head _))
  obtain ⟨_, _, lexicons, identifiers, _⟩ := agrees
  refine ⟨writes, ?_, ?_⟩
  · exact ((lexicons _ listed).ofBytes?_eq _ _ writes).trans (by decide)
  · have upper : Uuid.AreDigits "2AD52F5385AE408A987932A7E59DD03D".toList :=
      ⟨by decide, List.all_iff_forall_prop.1 (by decide)⟩
    have lower : Uuid.AreDigits "2ad52f5385ae408a987932a7e59dd03d".toList :=
      ⟨by decide, List.all_iff_forall_prop.1 (by decide)⟩
    obtain ⟨_, _, _, same⟩ := identifiers .payment
    exact (same _ _ _ _ upper lower .braced .simple).2 (by decide)

/-- An identifier after `URN:UUID:` is read, though no form with `urn:uuid:` in lower case is its
text. -/
theorem accepts_upperCaseUrn :
    (Identifier.parse "URN:UUID:2ad52f53-85ae-408a-9879-32a7e59dd03d" :
      Except Refusal PaymentId).toOption.isSome = true ∧
    ¬ ∃ digits, Uuid.AreDigits digits ∧
      "URN:UUID:2ad52f53-85ae-408a-9879-32a7e59dd03d".toList ∈
        [digits, Uuid.hyphenate digits, '{' :: Uuid.hyphenate digits ++ ['}'],
          "urn:uuid:".toList ++ Uuid.hyphenate digits] := by
  refine ⟨by decide +kernel, ?_⟩
  rintro ⟨digits, areDigits, form⟩
  have long := Uuid.length_hyphenate areDigits.length
  have length : "URN:UUID:2ad52f53-85ae-408a-9879-32a7e59dd03d".toList.length = 45 := by decide
  simp only [List.mem_cons, List.not_mem_nil, or_false] at form
  rcases form with simple | hyphenated | braced | urn
  · rw [simple, areDigits.length] at length
    cases length
  · rw [hyphenated, long] at length
    cases length
  · cases (List.cons.inj braced).1
  · cases (List.cons.inj urn).1

end Lexicon

end BillingClient.Vocabulary
