import BillingClient.Json.Codec
import BillingClient.Proofs.Json.Written

/-!
Contract: which values the structure of their text gives back.

`Value.IsSound` says that every number of a value can be read and that no object has a
key twice; the text of such a value is a value again as far as the depth allows
(`isSome_value?_node`). `Value.IsIntegral` is what a free value has to be for its text to
give the same value: only integers of the 64-bit ranges, and members sorted by key
(`value?_node_of_isIntegral`).
-/

namespace BillingClient.Json

open BillingClient.Number
open BillingClient.Text

/-! ## Depth -/

mutual

/-- How many arrays and objects of a value lie in each other. -/
def Value.depth : Value → Nat
  | .array elements => Value.depthOfElements elements + 1
  | .object members => Value.depthOfMembers members + 1
  | _ => 0

/-- The greatest depth of the elements of an array. -/
def Value.depthOfElements : List Value → Nat
  | [] => 0
  | element :: rest => max element.depth (Value.depthOfElements rest)

/-- The greatest depth of the members of an object. -/
def Value.depthOfMembers : List (String × Value) → Nat
  | [] => 0
  | (_, value) :: rest => max value.depth (Value.depthOfMembers rest)

end

theorem Value.depth_le_of_mem_elements {element : Value} {elements : List Value}
    (member : element ∈ elements) : element.depth ≤ Value.depthOfElements elements := by
  induction elements with
  | nil => cases member
  | cons head rest inductionHypothesis =>
      rw [Value.depthOfElements]
      rcases List.mem_cons.1 member with rfl | later
      · exact Nat.le_max_left _ _
      · exact Nat.le_trans (inductionHypothesis later) (Nat.le_max_right _ _)

theorem Value.depth_le_of_mem_members {entry : String × Value} {members : List (String × Value)}
    (member : entry ∈ members) : entry.2.depth ≤ Value.depthOfMembers members := by
  induction members with
  | nil => cases member
  | cons head rest inductionHypothesis =>
      rw [Value.depthOfMembers]
      rcases List.mem_cons.1 member with rfl | later
      · exact Nat.le_max_left _ _
      · exact Nat.le_trans (inductionHypothesis later) (Nat.le_max_right _ _)

/-- Where an array fits, its elements fit one level below. -/
theorem Value.exists_room_of_array {elements : List Value} {room : Nat}
    (fits : (Value.array elements).depth ≤ room) :
    ∃ below, room = below + 1 ∧ ∀ element ∈ elements, element.depth ≤ below := by
  rw [Value.depth] at fits
  refine ⟨room - 1, by omega, fun element member => ?_⟩
  have inside := Value.depth_le_of_mem_elements member
  omega

theorem Value.exists_room_of_object {members : List (String × Value)} {room : Nat}
    (fits : (Value.object members).depth ≤ room) :
    ∃ below, room = below + 1 ∧ ∀ member ∈ members, member.2.depth ≤ below := by
  rw [Value.depth] at fits
  refine ⟨room - 1, by omega, fun member memberIn => ?_⟩
  have inside := Value.depth_le_of_mem_members memberIn
  omega

/-! ## Keys and numbers -/

/-- No object within the value has a key twice. -/
inductive Value.HasUniqueKeys : Value → Prop
  | null : HasUniqueKeys .null
  | bool (value : Bool) : HasUniqueKeys (.bool value)
  | number (value : Number) : HasUniqueKeys (.number value)
  | string (text : String) : HasUniqueKeys (.string text)
  | array {elements : List Value} (each : ∀ element ∈ elements, HasUniqueKeys element) :
    HasUniqueKeys (.array elements)
  | object {members : List (String × Value)} (unique : (members.map Prod.fst).Nodup)
    (each : ∀ member ∈ members, HasUniqueKeys member.2) : HasUniqueKeys (.object members)

/-- No object within the value has a key twice, and every number can be read back. -/
inductive Value.IsSound : Value → Prop
  | null : IsSound .null
  | bool (value : Bool) : IsSound (.bool value)
  | number {value : Number} (inRange : (NumberText.of value).number?.isSome = true) :
    IsSound (.number value)
  | string (text : String) : IsSound (.string text)
  | array {elements : List Value} (each : ∀ element ∈ elements, IsSound element) :
    IsSound (.array elements)
  | object {members : List (String × Value)} (unique : (members.map Prod.fst).Nodup)
    (each : ∀ member ∈ members, IsSound member.2) : IsSound (.object members)

theorem Value.IsSound.hasUniqueKeys {value : Value} (sound : value.IsSound) :
    value.HasUniqueKeys := by
  induction sound with
  | null => exact .null
  | bool value => exact .bool value
  | number => exact .number _
  | string text => exact .string text
  | array _ inductionHypothesis => exact .array inductionHypothesis
  | object unique _ inductionHypothesis => exact .object unique inductionHypothesis

theorem isSome_mapM {α β : Type} {f : α → Option β} {items : List α}
    (each : ∀ item ∈ items, (f item).isSome = true) : (items.mapM f).isSome = true := by
  induction items with
  | nil => rfl
  | cons item rest inductionHypothesis =>
      obtain ⟨first, firstIs⟩ := Option.isSome_iff_exists.1 (each item (by simp))
      obtain ⟨others, othersAre⟩ := Option.isSome_iff_exists.1
        (inductionHypothesis fun other later => each other (List.mem_cons_of_mem _ later))
      simp [List.mapM_cons, firstIs, othersAre]

/-- The structure of a sound value means a value. -/
theorem Value.IsSound.isSome_value?_node {value : Value} (sound : value.IsSound) {room : Nat}
    (fits : value.depth ≤ room) : (value.node.value? room).isSome = true := by
  induction sound generalizing room with
  | null => rw [Value.node, Node.value?]; rfl
  | bool value => rw [Value.node, Node.value?]; rfl
  | number inRange => rw [Value.node, Node.value?, Option.isSome_map, inRange]
  | string text => rw [Value.node, Node.value?, StringText.string?_of]; rfl
  | @array elements _ inductionHypothesis =>
      obtain ⟨room, rfl, inside⟩ := Value.exists_room_of_array fits
      rw [Value.node, Node.value?, Option.isSome_map, Value.elementNodes_eq_map, List.mapM_map]
      exact isSome_mapM fun element member =>
        inductionHypothesis element member (inside element member)
  | @object members _ _ inductionHypothesis =>
      obtain ⟨room, rfl, inside⟩ := Value.exists_room_of_object fits
      rw [Value.node, Node.value?, Option.isSome_map, Value.memberNodes_eq_map, List.mapM_map]
      refine isSome_mapM fun entry member => ?_
      obtain ⟨value, valueIs⟩ := Option.isSome_iff_exists.1
        (inductionHypothesis entry member (inside entry member))
      simp [StringText.string?_of, valueIs]

/-! ## Integers -/

namespace NumberText

/-- Digits whose number fits are gathered without loss. -/
theorem foldl_addWhole {digits : List Nat} {start : Nat} (exponent : Int)
    (fits : valueAfter start digits ≤ maxUnsigned64) :
    digits.foldl Gathered.addWhole ⟨start, false, exponent⟩ =
      ⟨valueAfter start digits, false, exponent⟩ := by
  induction digits generalizing start with
  | nil => rfl
  | cons digit rest inductionHypothesis =>
      rw [valueAfter_cons] at fits ⊢
      have next : start * 10 + digit ≤ maxUnsigned64 := Nat.le_trans (le_valueAfter _ rest) fits
      rw [List.foldl_cons, Gathered.addWhole]
      simp only [Bool.false_eq_true, if_false, if_pos next]
      exact inductionHypothesis fits

/-- The integers that a number can hold: those of the signed and of the unsigned 64-bit
range. -/
def IsInteger64 (value : Int) : Prop :=
  -0x8000000000000000 ≤ value ∧ value ≤ 0xFFFFFFFFFFFFFFFF

section

variable {digits : List Nat}

/-- Digits alone are the number that they write. -/
theorem number?_whole (fits : valueAfter 0 digits ≤ maxUnsigned64) :
    number? ⟨false, digits, none, none⟩ = some (.integer (valueAfter 0 digits)) := by
  unfold number?
  dsimp only
  rw [foldl_addWhole 0 fits]
  rfl

/-- Digits behind a minus sign are an integer unless they write zero. -/
theorem number?_negative (fits : valueAfter 0 digits ≤ 0x8000000000000000)
    (some : valueAfter 0 digits ≠ 0) :
    number? ⟨true, digits, none, none⟩ = .some (.integer (-valueAfter 0 digits)) := by
  have limit : Nat.pow 2 63 = 0x8000000000000000 := rfl
  have unsigned : 0x8000000000000000 ≤ maxUnsigned64 := by decide
  have inside : ¬ (valueAfter 0 digits = 0 || Nat.pow 2 63 < valueAfter 0 digits) = true := by
    simp only [Bool.or_eq_true, decide_eq_true_eq]
    omega
  unfold number?
  dsimp only
  rw [foldl_addWhole 0 (Nat.le_trans fits unsigned)]
  simp only [Bool.false_eq_true, Bool.not_true, if_false, if_neg inside]
  rfl

/-- A zero behind a minus sign is a float. -/
theorem number?_negativeZero (zero : valueAfter 0 digits = 0) :
    number? ⟨true, digits, none, none⟩ = some (.float ⟨true, 0⟩) := by
  have scaledZero : scaled? 0 0 = some ⟨false, 0⟩ := by decide +kernel
  have fits : valueAfter 0 digits ≤ maxUnsigned64 := by rw [zero]; exact Nat.zero_le _
  unfold number?
  dsimp only
  rw [foldl_addWhole 0 fits, zero]
  simp [magnitude?, scaledZero]

end

/-- A written integer of the 64-bit ranges is that integer. -/
theorem number?_ofInt {value : Int} (inRange : IsInteger64 value) :
    (ofInt value).number? = some (.integer value) := by
  obtain ⟨least, greatest⟩ := inRange
  have unsigned : maxUnsigned64 = 18446744073709551615 := rfl
  have written := valueAfter_digitsOf value.natAbs
  unfold ofInt
  by_cases negative : value < 0
  · rw [decide_eq_true negative, number?_negative (by omega) (by omega), written]
    congr 2
    omega
  · rw [decide_eq_false negative, number?_whole (by omega), written]
    congr 2
    omega

end NumberText

/-! ## Sorted members -/

theorem insertEntry_append {α : Type} {key : String} {value : α} {entries : List (String × α)}
    (above : ∀ entry ∈ entries, entry.1 < key) :
    insertEntry key value entries = entries ++ [(key, value)] := by
  induction entries with
  | nil => rfl
  | cons head rest inductionHypothesis =>
      have headBelow : head.1 < key := above head (by simp)
      rw [insertEntry, if_neg (Ne.symm (String.ne_of_lt headBelow)),
        if_neg (String.lt_asymm headBelow),
        inductionHypothesis fun entry later => above entry (List.mem_cons_of_mem _ later)]
      rfl

/-- The map of sorted entries has just these entries. -/
theorem Map.entries_ofEntries {α : Type} {entries : List (String × α)}
    (sorted : SortedByKey entries) : (Map.ofEntries entries).entries = entries := by
  have appended : ∀ (later : List (String × α)) (map : Map α),
      SortedByKey (map.entries ++ later) →
        (later.foldl (fun map entry => map.insert entry.1 entry.2) map).entries =
          map.entries ++ later := by
    intro later
    induction later with
    | nil => intro map _; simp
    | cons entry rest inductionHypothesis =>
        intro map sorted
        have above := (List.pairwise_append.1 sorted).2.2
        have inserted : (map.insert entry.1 entry.2).entries = map.entries ++ [entry] :=
          insertEntry_append fun before member => above before member entry (by simp)
        rw [List.foldl_cons, inductionHypothesis, inserted, List.append_assoc]
        · rfl
        · rw [inserted, List.append_assoc]
          exact sorted
  exact appended entries .empty sorted

/-! ## Free values -/

/-- A free value that its text gives back: integers of the 64-bit ranges are its only
numbers. The members of its objects are sorted by key, as in a `Map`. -/
inductive Value.IsIntegral : Value → Prop
  | null : IsIntegral .null
  | bool (value : Bool) : IsIntegral (.bool value)
  | integer {value : Int} (inRange : NumberText.IsInteger64 value) :
    IsIntegral (.number (.integer value))
  | string (text : String) : IsIntegral (.string text)
  | array {elements : List Value} (each : ∀ element ∈ elements, IsIntegral element) :
    IsIntegral (.array elements)
  | object {members : List (String × Value)} (sorted : SortedByKey members)
    (each : ∀ member ∈ members, IsIntegral member.2) : IsIntegral (.object members)

theorem SortedByKey.nodup_keys {α : Type} {entries : List (String × α)}
    (sorted : SortedByKey entries) : (entries.map Prod.fst).Nodup := by
  refine List.pairwise_map.2 (List.Pairwise.imp ?_ sorted)
  intro earlier later below
  exact String.ne_of_lt below

theorem Value.IsIntegral.isSound {value : Value} (integral : value.IsIntegral) :
    value.IsSound := by
  induction integral with
  | null => exact .null
  | bool value => exact .bool value
  | integer inRange =>
      refine .number ?_
      rw [NumberText.of, NumberText.number?_ofInt inRange]
      rfl
  | string text => exact .string text
  | array _ inductionHypothesis => exact .array inductionHypothesis
  | object sorted _ inductionHypothesis => exact .object sorted.nodup_keys inductionHypothesis

theorem mapM_eq_some {α β : Type} {f : α → Option β} {g : α → β} {items : List α}
    (each : ∀ item ∈ items, f item = some (g item)) : items.mapM f = some (items.map g) := by
  induction items with
  | nil => rfl
  | cons item rest inductionHypothesis =>
      have others := inductionHypothesis fun other later => each other (List.mem_cons_of_mem _ later)
      simp [List.mapM_cons, each item (by simp), others]

/-- The text of an integral value gives it back. -/
theorem Value.IsIntegral.value?_node {value : Value} (integral : value.IsIntegral) {room : Nat}
    (fits : value.depth ≤ room) : value.node.value? room = some value := by
  induction integral generalizing room with
  | null => rw [Value.node, Node.value?]
  | bool value => rw [Value.node, Node.value?]
  | integer inRange =>
      rw [Value.node, Node.value?, NumberText.of, NumberText.number?_ofInt inRange]
      rfl
  | string text => rw [Value.node, Node.value?, StringText.string?_of]; rfl
  | @array elements _ inductionHypothesis =>
      obtain ⟨room, rfl, inside⟩ := Value.exists_room_of_array fits
      rw [Value.node, Node.value?, Value.elementNodes_eq_map, List.mapM_map,
        mapM_eq_some (g := id), List.map_id, Option.map_some]
      intro element member
      exact inductionHypothesis element member (inside element member)
  | @object members sorted _ inductionHypothesis =>
      obtain ⟨room, rfl, inside⟩ := Value.exists_room_of_object fits
      rw [Value.node, Node.value?, Value.memberNodes_eq_map, List.mapM_map,
        mapM_eq_some (g := id), List.map_id, Option.map_some, Map.entries_ofEntries sorted]
      intro entry member
      have valueIs := inductionHypothesis entry member (inside entry member)
      simp [StringText.string?_of, valueIs]

/-! ## Equality -/

mutual

/-- A value equals itself. -/
theorem Value.same_refl (value : Value) : value.same value = true := by
  match value with
  | .null => rfl
  | .bool value => exact beq_self_eq_true value
  | .number (.integer value) => exact beq_self_eq_true value
  | .number (.float value) =>
      show (value.units == value.units && (value.negative == value.negative || _)) = true
      rw [beq_self_eq_true, beq_self_eq_true]
      rfl
  | .string text => exact beq_self_eq_true text
  | .array elements =>
      rw [Value.same]
      exact Value.sameElements_refl elements
  | .object members =>
      rw [Value.same]
      exact Value.sameMembers_refl members

theorem Value.sameElements_refl (elements : List Value) :
    Value.sameElements elements elements = true := by
  match elements with
  | [] => rfl
  | element :: rest =>
      rw [Value.sameElements, Value.same_refl element, Value.sameElements_refl rest]
      rfl

theorem Value.sameMembers_refl (members : List (String × Value)) :
    Value.sameMembers members members = true := by
  match members with
  | [] => rfl
  | (key, value) :: rest =>
      rw [Value.sameMembers, Value.same_refl value, Value.sameMembers_refl rest, beq_self_eq_true]
      rfl

end

end BillingClient.Json
