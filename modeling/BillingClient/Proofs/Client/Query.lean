import BillingClient.Client.Query
import BillingClient.Proofs.Calendar.Date
import BillingClient.Proofs.Text.Form
import BillingClient.Proofs.Vocabulary.Uuid
import BillingClient.Proofs.Vocabulary.Words
import BillingClient.Vocabulary.Identifier

/-!
Contract: parameters tell the arguments that they are put together from.

Each kind of parameter comes off the front of a list of them in one way only. One that may be
absent, or that may be there more than once, does so where what follows has no parameter of its key.
-/

namespace BillingClient

open BillingClient.Calendar
open BillingClient.Client
open BillingClient.Number (Decimal)
open BillingClient.Text
open BillingClient.Vocabulary

/-! ## Texts of arguments -/

@[simp] theorem Vocabulary.Identifier.text_inj {kind : ObjectKind} {left right : Identifier kind} :
    left.text = right.text ↔ left = right := by
  constructor
  · intro same
    have read := Uuid.ofText?_text left.uuid
    rw [show left.uuid.text = right.uuid.text from same, Uuid.ofText?_text] at read
    cases left
    cases right
    cases read
    rfl
  · exact congrArg Identifier.text

@[simp] theorem Calendar.Date.text_inj {left right : Date} :
    left.text = right.text ↔ left = right := by
  constructor
  · intro same
    have read := Date.ofText?_text left
    rw [same, Date.ofText?_text] at read
    exact (Option.some.inj read).symm
  · exact congrArg Date.text

@[simp] theorem Vocabulary.Wordlist.word_inj {α : Type} [Wordlist α] [LawfulWordlist α]
    {left right : α} : word left = word right ↔ left = right := by
  constructor
  · intro same
    have read := ofWord?_word left
    rw [same, ofWord?_word] at read
    exact (Option.some.inj read).symm
  · exact congrArg word

namespace Client.Query

theorem digitsValue?_naturalText (value : Nat) :
    digitsValue? (naturalText value).toList = some value := by
  rw [naturalText, String.toList_ofList, decimalDigits_eq_map,
    digitsValue?_map fun _ => digitsOf_lt, valueAfter_digitsOf]

@[simp] theorem naturalText_inj {left right : Nat} :
    naturalText left = naturalText right ↔ left = right := by
  constructor
  · intro same
    have read := digitsValue?_naturalText left
    rw [same, digitsValue?_naturalText] at read
    exact (Option.some.inj read).symm
  · exact congrArg naturalText

/-! ## Keys -/

theorem append_pairs (first second : Query) :
    (first ++ second).pairs = first.pairs ++ second.pairs :=
  rfl

@[simp] theorem append_assoc (first second third : Query) :
    first ++ second ++ third = first ++ (second ++ third) :=
  congrArg mk (List.append_assoc _ _ _)

theorem eq_iff {left right : Query} : left = right ↔ left.pairs = right.pairs :=
  ⟨congrArg pairs, congrArg mk⟩

/-- Whether no parameter has a key. -/
def Avoids (query : Query) (key : String) : Prop :=
  ∀ pair ∈ query.pairs, pair.1 ≠ key

section

variable {key other : String}

@[simp] theorem avoids_append {first second : Query} :
    (first ++ second).Avoids key ↔ first.Avoids key ∧ second.Avoids key := by
  unfold Avoids
  rw [append_pairs, List.forall_mem_append]

@[simp] theorem avoids_value {text : String} : (value other text).Avoids key ↔ other ≠ key := by
  simp [Avoids, value]

@[simp] theorem avoids_each (different : other ≠ key) (values : List String) :
    (each other values).Avoids key := by
  simp [Avoids, each, different]

@[simp] theorem avoids_optional (different : other ≠ key) (text : Option String) :
    (optional other text).Avoids key := by
  cases text with
  | none => exact List.forall_mem_nil _
  | some text => exact avoids_value.2 different

@[simp] theorem avoids_flag {isSet : Bool} : (flag other isSet).Avoids key ↔ other ≠ key :=
  avoids_value

@[simp] theorem avoids_date (different : other ≠ key) (day : Option Date) :
    (date other day).Avoids key :=
  avoids_optional different _

@[simp] theorem avoids_audit {level : AuditLevel} : (audit level).Avoids key ↔ "audit" ≠ key :=
  avoids_value

@[simp] theorem avoids_pluginProperties (different : "pluginProperty" ≠ key)
    (properties : List (String × String)) : (pluginProperties properties).Avoids key :=
  avoids_each different _

/-! ## Parameters in front of others -/

variable {leftRest rightRest : Query}

@[simp] theorem value_append_inj {left right : String} :
    value key left ++ leftRest = value key right ++ rightRest ↔
      left = right ∧ leftRest = rightRest := by
  simp [eq_iff, append_pairs, value]

@[simp] theorem value_inj {left right : String} :
    value key left = value key right ↔ left = right := by
  simp [eq_iff, value]

@[simp] theorem flag_append_inj {left right : Bool} :
    flag key left ++ leftRest = flag key right ++ rightRest ↔
      left = right ∧ leftRest = rightRest := by
  unfold flag
  rw [value_append_inj]
  cases left <;> cases right <;> simp

@[simp] theorem page_append_inj {left right : Page} :
    page left ++ leftRest = page right ++ rightRest ↔ left = right ∧ leftRest = rightRest := by
  cases left
  cases right
  simp [page, and_assoc]

@[simp] theorem audit_inj {left right : AuditLevel} : audit left = audit right ↔ left = right := by
  simp [audit]

/-- Values of one key are those in front of the first other key. -/
@[simp] theorem each_append_inj (leftAvoids : leftRest.Avoids key)
    (rightAvoids : rightRest.Avoids key) {left right : List String} :
    each key left ++ leftRest = each key right ++ rightRest ↔
      left = right ∧ leftRest = rightRest := by
  have front (values : List String) {rest : Query} (avoids : rest.Avoids key) :
      (each key values ++ rest).pairs.takeWhile (·.1 = key) = values.map (key, ·) := by
    have nothing : rest.pairs.takeWhile (·.1 = key) = [] := by
      cases pairs : rest.pairs with
      | nil => rfl
      | cons pair others =>
          have different := avoids pair (by simp [pairs])
          rw [List.takeWhile_cons_of_neg (by simpa using different)]
    rw [append_pairs, List.takeWhile_append_of_pos (by simp [each]), nothing, List.append_nil]
    rfl
  constructor
  · intro same
    have sameFront := front left leftAvoids
    rw [same, front right rightAvoids] at sameFront
    have sameValues : right = left := by
      refine List.map_injective_iff.2 (fun first second pairs => ?_) sameFront
      exact (Prod.mk.inj pairs).2
    subst sameValues
    exact ⟨rfl, eq_iff.2 (List.append_cancel_left (eq_iff.1 same))⟩
  · rintro ⟨rfl, rfl⟩
    rfl

theorem optional_eq_each (text : Option String) : optional key text = each key text.toList := by
  cases text <;> rfl

@[simp] theorem optional_append_inj (leftAvoids : leftRest.Avoids key)
    (rightAvoids : rightRest.Avoids key) {left right : Option String} :
    optional key left ++ leftRest = optional key right ++ rightRest ↔
      left = right ∧ leftRest = rightRest := by
  rw [optional_eq_each, optional_eq_each, each_append_inj leftAvoids rightAvoids]
  cases left <;> cases right <;> simp

@[simp] theorem date_append_inj (leftAvoids : leftRest.Avoids key)
    (rightAvoids : rightRest.Avoids key) {left right : Option Date} :
    date key left ++ leftRest = date key right ++ rightRest ↔
      left = right ∧ leftRest = rightRest := by
  unfold date
  rw [optional_append_inj leftAvoids rightAvoids]
  cases left <;> cases right <;> simp

@[simp] theorem optional_inj {left right : Option String} :
    optional key left = optional key right ↔ left = right := by
  cases left <;> cases right <;> simp [optional, value, eq_iff]

@[simp] theorem pluginProperties_append_inj (leftAvoids : leftRest.Avoids "pluginProperty")
    (rightAvoids : rightRest.Avoids "pluginProperty") {left right : List (String × String)} :
    pluginProperties left ++ leftRest = pluginProperties right ++ rightRest ↔
      left = right ∧ leftRest = rightRest := by
  unfold pluginProperties
  rw [each_append_inj leftAvoids rightAvoids,
    (List.map_injective_iff.2 fun _ _ => Form.writePair_inj).eq_iff]

end

/-! ## Values of a key -/

section

variable {key other : String}

@[simp] theorem getAll_empty : ({} : Query).getAll key = [] :=
  rfl

@[simp] theorem getAll_append (first second : Query) :
    (first ++ second).getAll key = first.getAll key ++ second.getAll key := by
  unfold getAll
  rw [append_pairs, List.filter_append, List.map_append]

@[simp] theorem getAll_each (values : List String) :
    (each other values).getAll key = if other = key then values else [] := by
  by_cases same : other = key <;> simp [getAll, each, List.filter_map, Function.comp_def, same]

@[simp] theorem getAll_value (text : String) :
    (value other text).getAll key = if other = key then [text] else [] :=
  getAll_each [text]

@[simp] theorem getAll_optional (text : Option String) :
    (optional other text).getAll key = if other = key then text.toList else [] := by
  rw [optional_eq_each, getAll_each]

@[simp] theorem getAll_flag (isSet : Bool) (different : other ≠ key) :
    (flag other isSet).getAll key = [] := by
  unfold flag
  rw [getAll_value, if_neg different]

@[simp] theorem getAll_decimal (amount : Option Decimal) (different : other ≠ key) :
    (decimal other amount).getAll key = [] := by
  unfold decimal
  rw [getAll_optional, if_neg different]

@[simp] theorem getAll_date (day : Option Date) (different : other ≠ key) :
    (date other day).getAll key = [] := by
  unfold date
  rw [getAll_optional, if_neg different]

@[simp] theorem getAll_word {α : Type} [Wordlist α] (term : Option α) (different : other ≠ key) :
    (word other term).getAll key = [] := by
  unfold word
  rw [getAll_optional, if_neg different]

@[simp] theorem getAll_audit (level : AuditLevel) (different : "audit" ≠ key) :
    (audit level).getAll key = [] := by
  unfold audit
  rw [getAll_value, if_neg different]

@[simp] theorem getAll_page (page : Page) (notOffset : "offset" ≠ key) (notLimit : "limit" ≠ key) :
    (Query.page page).getAll key = [] := by
  unfold Query.page
  rw [getAll_append, getAll_value, getAll_value, if_neg notOffset, if_neg notLimit]
  rfl

@[simp] theorem getAll_completion (completion : Completion) (notActive : "callCompletion" ≠ key)
    (notTimeout : "callTimeoutSec" ≠ key) : (Query.completion completion).getAll key = [] := by
  unfold Query.completion
  split
  · rw [getAll_append, getAll_flag _ notActive, getAll_value, if_neg notTimeout]
    rfl
  · rfl

@[simp] theorem getAll_pluginProperties (properties : List (String × String)) :
    (pluginProperties properties).getAll key =
      if "pluginProperty" = key then properties.map Form.writePair else [] :=
  getAll_each _

end

end Client.Query

end BillingClient
