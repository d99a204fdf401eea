import BillingClient.Json.Record
import BillingClient.Proofs.Json.FreeValue

/-!
Contract: codecs that read back what they write.

`Codec.Faithful` states the law at every place that is deep enough for the value, and
carries what a value has to promise for it. Instances are here for the plain types and for
lists, maps and free values; `Codec.Faithful.ofBytes?_text` is the law for whole texts.
-/

namespace BillingClient.Json

open BillingClient.Number
open BillingClient.Text

namespace Codec

variable {α : Type} [BEq α]

/-- Whether a codec reads the structure of what it writes for a value as an equal one. -/
def ReadsBack (codec : Codec α) (place : Place) (value : α) : Prop :=
  ∃ again, codec.decode place (codec.encode value).node = some again ∧ (again == value) = true

theorem ReadsBack.of_eq [ReflBEq α] {codec : Codec α} {place : Place} {value : α}
    (same : codec.decode place (codec.encode value).node = some value) :
    codec.ReadsBack place value :=
  ⟨value, same, BEq.rfl⟩

/-- A codec that reads back what it writes. -/
class Faithful {α : Type} [BEq α] (codec : Codec α) where
  /-- What a value has to promise. -/
  Admissible : α → Prop
  /-- What a value has to promise where `null` stands for no value. -/
  AdmissiblePresent : α → Prop := Admissible
  admissible_of_present : ∀ value, AdmissiblePresent value → Admissible value := by
    exact fun _ present => present
  encode_ne_null : ∀ value, AdmissiblePresent value → codec.encode value ≠ .null
  isSound : ∀ value, Admissible value → (codec.encode value).IsSound
  readsBack : ∀ place value, Admissible value → (codec.encode value).depth ≤ place.room →
    codec.ReadsBack place value

export Faithful (Admissible AdmissiblePresent)

/-! ## Whole texts -/

omit [BEq α] in
/-- A codec reads from the bytes of a value's text the structure that they write. -/
theorem ofBytes?_encode_text (codec : Codec α) (value : α) :
    codec.ofBytes? (Utf8.encode (codec.text value)) =
      codec.decode .top (codec.encode value).node := by
  rw [ofBytes?, text, read_encode_text, Option.bind_some]

/-- The text of an admissible value that is not too deep is read as an equal value. -/
theorem Faithful.ofBytes?_text {codec : Codec α} [Faithful codec] {value : α}
    (admissible : Admissible codec value) (fits : (codec.encode value).depth ≤ maxDepth) :
    ∃ again, codec.ofBytes? (Utf8.encode (codec.text value)) = some again ∧
      (again == value) = true := by
  rw [ofBytes?_encode_text]
  exact Faithful.readsBack .top value admissible fits

/-! ## Plain types -/

instance : Faithful bool where
  Admissible _ := True
  encode_ne_null _ _ := by simp [bool]
  isSound value _ := .bool value
  readsBack _ _ _ _ := .of_eq rfl

instance : Faithful string where
  Admissible _ := True
  encode_ne_null _ _ := by simp [string]
  isSound value _ := .string value
  readsBack _ value _ _ := .of_eq (StringText.string?_of value)

/-- An integer of the 64-bit ranges is read back between bounds that it keeps. -/
theorem decode_integer {least greatest value : Int} (inRange64 : NumberText.IsInteger64 value)
    (inRange : least ≤ value ∧ value ≤ greatest) (place : Place) :
    (integer least greatest).decode place (.number (.ofInt value)) = some value := by
  simp only [integer, NumberText.number?_ofInt inRange64]
  rw [if_pos inRange]

instance : Faithful int32 where
  Admissible value := -0x80000000 ≤ value ∧ value ≤ 0x7FFFFFFF
  encode_ne_null _ _ := by simp [int32, integer]
  isSound value inRange := by
    refine .number ?_
    rw [NumberText.of, NumberText.number?_ofInt ⟨by omega, by omega⟩]
    rfl
  readsBack place value inRange _ := .of_eq (decode_integer ⟨by omega, by omega⟩ inRange place)

theorem decode_unsigned64 {value : Nat} (fits : value ≤ maxUnsigned64) (place : Place) :
    unsigned64.decode place (unsigned64.encode value).node = some value := by
  have limit : maxUnsigned64 = 18446744073709551615 := rfl
  have read := decode_integer ⟨by omega, by omega⟩
    ⟨Int.natCast_nonneg value, Int.ofNat_le.2 fits⟩ place
  show ((integer 0 maxUnsigned64).decode place (.number (.ofInt value))).bind _ = _
  rw [read, Option.bind_some, Int.toNat_natCast]

/-- An amount is admissible when its own text gives back an equal amount. -/
instance : Faithful decimal where
  Admissible value := ∃ again, decimal.ofBytes? (Utf8.encode (decimal.text value)) = some again ∧
    (again == value) = true
  encode_ne_null _ _ := by simp [decimal]
  isSound value kept := by
    obtain ⟨again, read, -⟩ := kept
    refine .number ?_
    rw [ofBytes?_encode_text] at read
    simp only [decimal, Value.node] at read
    split at read
    · rename_i number
      rw [number]
      rfl
    · rename_i number
      rw [number]
      rfl
    · contradiction
  readsBack place value kept _ := by
    rw [ofBytes?_encode_text] at kept
    exact kept

/-- Codecs of a type whose values are written as those of another. -/
abbrev Faithful.ofRefine {β : Type} [BEq β] (codec : Codec β) [Faithful codec]
    {read : β → Option α} {written : α → β}
    (readAgain : ∀ again value, (again == written value) = true →
      ∃ other, read again = some other ∧ (other == value) = true) :
    Faithful (codec.refine read written) where
  Admissible value := Admissible codec (written value)
  AdmissiblePresent value := AdmissiblePresent codec (written value)
  admissible_of_present value := Faithful.admissible_of_present (written value)
  encode_ne_null value := Faithful.encode_ne_null (written value)
  isSound value := Faithful.isSound (written value)
  readsBack place value admissible fits := by
    obtain ⟨again, decoded, same⟩ := Faithful.readsBack place (written value) admissible fits
    obtain ⟨other, otherIs, otherSame⟩ := readAgain again value same
    refine ⟨other, ?_, otherSame⟩
    show (codec.decode place (codec.encode (written value)).node).bind read = some other
    rw [decoded, Option.bind_some, otherIs]

/-- Codecs of types with a text of their own, written as strings. -/
abbrev Faithful.ofString [ReflBEq α] {read : String → Option α} {written : α → String}
    (same : ∀ value, read (written value) = some value) :
    Faithful (string.refine read written) :=
  .ofRefine string fun _ value written =>
    ⟨value, by rw [eq_of_beq written, same], BEq.rfl⟩

/-- Codecs of names of a fixed set. -/
abbrev Faithful.ofName [ReflBEq α] {parse? : String → Option α} {written : α → String}
    (same : ∀ value, parse? (written value) = some value) : Faithful (name parse? written) where
  Admissible _ := True
  encode_ne_null _ _ := by simp [name]
  isSound value _ := .string (written value)
  readsBack _ value _ _ := by
    refine .of_eq ?_
    show (StringText.string? (.of (written value))).bind parse? = some value
    rw [StringText.string?_of, Option.bind_some, same]

/-! ## Free values -/

instance : Faithful free where
  Admissible value := value.IsIntegral
  AdmissiblePresent value := value.IsIntegral ∧ value ≠ .null
  admissible_of_present _ present := present.1
  encode_ne_null _ present := present.2
  isSound _ integral := integral.isSound
  readsBack _ value integral fits :=
    ⟨value, integral.value?_node fits, value.same_refl⟩

/-! ## Lists and maps -/

omit [BEq α] in
theorem exists_mapM_beq {β : Type} [BEq β] {f : α → Option β} {g : α → β} {items : List α}
    (each : ∀ item ∈ items, ∃ again, f item = some again ∧ (again == g item) = true) :
    ∃ again, items.mapM f = some again ∧ (again == items.map g) = true := by
  induction items with
  | nil => exact ⟨[], rfl, rfl⟩
  | cons item rest inductionHypothesis =>
      obtain ⟨first, firstIs, firstSame⟩ := each item (by simp)
      obtain ⟨others, othersAre, othersSame⟩ :=
        inductionHypothesis fun other later => each other (List.mem_cons_of_mem _ later)
      refine ⟨first :: others, by simp [List.mapM_cons, firstIs, othersAre], ?_⟩
      rw [List.map_cons, List.cons_beq_cons, firstSame, othersSame]
      rfl

instance (codec : Codec α) [Faithful codec] : Faithful codec.list where
  Admissible values := ∀ value ∈ values, Admissible codec value
  encode_ne_null _ _ := by simp [list]
  isSound values admissible := by
    refine .array fun element member => ?_
    obtain ⟨value, valueIn, rfl⟩ := List.mem_map.1 member
    exact Faithful.isSound value (admissible value valueIn)
  readsBack place values admissible fits := by
    obtain ⟨room, collected⟩ := place
    obtain ⟨room, rfl, inside⟩ := Value.exists_room_of_array fits
    have each : ∀ value ∈ values, codec.ReadsBack ⟨room, collected⟩ value := by
      intro value member
      exact Faithful.readsBack _ value (admissible value member)
        (inside _ (List.mem_map_of_mem member))
    obtain ⟨again, againIs, same⟩ := exists_mapM_beq (g := id) each
    refine ⟨again, ?_, by rwa [List.map_id] at same⟩
    simp only [list, Value.node, Value.elementNodes_eq_map, Place.inner?, Option.bind_some,
      List.map_map, List.mapM_map]
    exact againIs

/-- Equal entries have equal keys. -/
theorem keys_eq_of_beq {left right : List (String × α)} (same : (left == right) = true) :
    left.map Prod.fst = right.map Prod.fst := by
  induction left generalizing right with
  | nil =>
      cases right with
      | nil => rfl
      | cons head rest => contradiction
  | cons head rest inductionHypothesis =>
      cases right with
      | nil => contradiction
      | cons other others =>
          obtain ⟨key, value⟩ := head
          obtain ⟨otherKey, otherValue⟩ := other
          simp only [List.cons_beq_cons, Bool.and_eq_true] at same
          obtain ⟨sameHead, sameRest⟩ := same
          have sameKey : (key == otherKey) = true := (Bool.and_eq_true_iff.1 sameHead).1
          rw [List.map_cons, List.map_cons, inductionHypothesis sameRest, eq_of_beq sameKey]

omit [BEq α] in
theorem sortedByKey_iff_keys {entries : List (String × α)} :
    SortedByKey entries ↔ (entries.map Prod.fst).Pairwise (· < ·) :=
  List.pairwise_map.symm

instance (codec : Codec α) [Faithful codec] : Faithful codec.map where
  Admissible map := ∀ entry ∈ map.entries, Admissible codec entry.2
  encode_ne_null _ _ := by simp [map]
  isSound map admissible := by
    refine .object ?_ fun member memberIn => ?_
    · rw [List.map_map]
      exact map.sorted.nodup_keys
    · obtain ⟨entry, entryIn, rfl⟩ := List.mem_map.1 memberIn
      exact Faithful.isSound entry.2 (admissible entry entryIn)
  readsBack place map admissible fits := by
    obtain ⟨room, collected⟩ := place
    obtain ⟨room, rfl, inside⟩ := Value.exists_room_of_object fits
    have each : ∀ entry ∈ map.entries, ∃ again,
        (do
          let key ← StringText.string? (StringText.of entry.1)
          let value ← codec.decode ⟨room, collected⟩ (codec.encode entry.2).node
          some (key, value)) = some again ∧ (again == id entry) = true := by
      intro entry entryIn
      obtain ⟨again, againIs, same⟩ := Faithful.readsBack ⟨room, collected⟩ entry.2
        (admissible entry entryIn) (inside _ (List.mem_map_of_mem entryIn))
      refine ⟨(entry.1, again), by simp [StringText.string?_of, againIs], ?_⟩
      exact Bool.and_eq_true_iff.2 ⟨beq_self_eq_true _, same⟩
    obtain ⟨again, againIs, same⟩ := exists_mapM_beq each
    rw [List.map_id] at same
    have sorted : SortedByKey again := by
      rw [sortedByKey_iff_keys, keys_eq_of_beq same, ← sortedByKey_iff_keys]
      exact map.sorted
    refine ⟨.ofEntries again, ?_, ?_⟩
    · simp only [Codec.map, Value.node, Value.memberNodes_eq_map, Place.inner?, Option.bind_some,
        List.map_map, List.mapM_map]
      exact congrArg (Option.map Map.ofEntries) againIs
    · show ((Map.ofEntries again).entries == map.entries) = true
      rw [Map.entries_ofEntries sorted, same]

end Codec

end BillingClient.Json
