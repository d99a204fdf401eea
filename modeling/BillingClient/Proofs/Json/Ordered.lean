import BillingClient.Json.Fields
import BillingClient.Proofs.Json.FreeValue

/-!
Contract: maps by what each key has, and values with the members of their objects in order.

A map has under each key what was the last entry with it (`Map.lookup_ofEntries`), and is
determined by this (`SortedByKey.eq_of_lookup`). Main statements: `Value.ordered_eq_self_iff`, by
which ordering changes just the values that are not in order, and `Value.ordered_object_eq_iff`,
which says when two objects have one ordered form.
-/

namespace BillingClient.Json

/-! ## Lists in the order of a key -/

section

variable {α : Type}

theorem key_le_of_filter {key : α → String} {first : α} {rest : List α}
    (inOrder : (first :: rest).Pairwise fun first second => key first ≤ key second) {name : String}
    (some : (first :: rest).filter (key · = name) ≠ []) : key first ≤ name := by
  obtain ⟨other, otherIn⟩ := List.exists_mem_of_ne_nil _ some
  obtain ⟨member, isNamed⟩ := List.mem_filter.1 otherIn
  rw [← of_decide_eq_true isNamed]
  rcases List.mem_cons.1 member with rfl | later
  · exact Std.le_refl _
  · exact (List.pairwise_cons.1 inOrder).1 other later

/-- Lists in the order of a key are determined by the elements of each key. -/
theorem eq_of_filter_key (key : α → String) {left right : List α}
    (leftInOrder : left.Pairwise fun first second => key first ≤ key second)
    (rightInOrder : right.Pairwise fun first second => key first ≤ key second)
    (same : ∀ name, left.filter (key · = name) = right.filter (key · = name)) : left = right := by
  have self (first : α) (rest : List α) :
      (first :: rest).filter (key · = key first) = first :: rest.filter (key · = key first) :=
    List.filter_cons_of_pos (decide_eq_true rfl)
  induction left generalizing right with
  | nil =>
      cases right with
      | nil => rfl
      | cons other others =>
          have none := same (key other)
          rw [self] at none
          cases none
  | cons first rest inductionHypothesis =>
      cases right with
      | nil =>
          have none := same (key first)
          rw [self] at none
          cases none
      | cons other others =>
          -- The first key of each list is the least of all.
          have sameKey : key first = key other := by
            apply String.le_antisymm
            · apply key_le_of_filter leftInOrder
              rw [same, self]
              exact List.cons_ne_nil _ _
            · apply key_le_of_filter rightInOrder
              rw [← same, self]
              exact List.cons_ne_nil _ _
          have sameFirst := same (key first)
          rw [self, sameKey, self, List.cons.injEq] at sameFirst
          obtain ⟨rfl, -⟩ := sameFirst
          congr 1
          apply inductionHypothesis (List.pairwise_cons.1 leftInOrder).2
            (List.pairwise_cons.1 rightInOrder).2
          intro name
          have sameNamed := same name
          rw [List.filter_cons, List.filter_cons] at sameNamed
          split at sameNamed
          · exact (List.cons.inj sameNamed).2
          · exact sameNamed

end

/-! ## Maps by key -/

section

variable {α β : Type}

theorem lookup_cons (key : String) (value : α) (rest : List (String × α)) (name : String) :
    ((key, value) :: rest).lookup name = if name = key then some value else rest.lookup name := by
  by_cases isKey : name = key
  · rw [if_pos isKey, isKey, List.lookup_cons_self]
  · have isOther : (name == key) = false := by simpa using isKey
    rw [if_neg isKey, List.lookup_cons, isOther]

theorem lookup_map (written : α → β) (entries : List (String × α)) (name : String) :
    (entries.map fun entry => (entry.1, written entry.2)).lookup name =
      (entries.lookup name).map written := by
  induction entries with
  | nil => rfl
  | cons entry rest inductionHypothesis =>
      obtain ⟨key, value⟩ := entry
      rw [List.map_cons, lookup_cons, lookup_cons, inductionHypothesis]
      split <;> rfl

theorem lookup_insertEntry (key : String) (value : α) (entries : List (String × α))
    (name : String) :
    (insertEntry key value entries).lookup name =
      if name = key then some value else entries.lookup name := by
  induction entries with
  | nil => rw [insertEntry, lookup_cons]
  | cons head rest inductionHypothesis =>
      obtain ⟨other, found⟩ := head
      rw [insertEntry, lookup_cons other found]
      split
      · rename_i sameKey
        rw [lookup_cons, ← sameKey]
        split <;> rfl
      · rename_i otherKey
        split
        · rw [lookup_cons, lookup_cons]
        · rw [lookup_cons, inductionHypothesis]
          by_cases isOther : name = other
          · have notKey : name ≠ key := fun isKey => otherKey (isKey.symm.trans isOther)
            rw [if_pos isOther, if_neg notKey, if_pos isOther]
          · rw [if_neg isOther, if_neg isOther]

/-- Of several entries with one key the last counts. -/
theorem Map.lookup_ofEntries (entries : List (String × α)) (name : String) :
    (Map.ofEntries entries).entries.lookup name = entries.reverse.lookup name := by
  unfold Map.ofEntries
  rw [← List.foldr_reverse]
  induction entries.reverse with
  | nil => rfl
  | cons entry rest inductionHypothesis =>
      rw [List.foldr_cons, Map.insert, lookup_insertEntry, inductionHypothesis, lookup_cons]

theorem SortedByKey.filter_key {entries : List (String × α)} (sorted : SortedByKey entries)
    (name : String) :
    entries.filter (·.1 = name) = (entries.lookup name).toList.map fun value => (name, value) := by
  induction entries with
  | nil => rfl
  | cons entry rest inductionHypothesis =>
      obtain ⟨key, value⟩ := entry
      obtain ⟨above, restSorted⟩ := List.pairwise_cons.1 sorted
      rw [lookup_cons]
      by_cases isKey : name = key
      · subst isKey
        have onlyHere : rest.filter (·.1 = name) = [] := by
          rw [List.filter_eq_nil_iff]
          intro other otherIn isName
          exact String.lt_irrefl name (of_decide_eq_true isName ▸ above other otherIn)
        rw [if_pos rfl, List.filter_cons_of_pos (by simp), onlyHere]
        rfl
      · rw [if_neg isKey, List.filter_cons_of_neg (by simpa using Ne.symm isKey),
          inductionHypothesis restSorted]

/-- Entries sorted by key are determined by what each key has. -/
theorem SortedByKey.eq_of_lookup {left right : List (String × α)} (leftSorted : SortedByKey left)
    (rightSorted : SortedByKey right) (same : ∀ name, left.lookup name = right.lookup name) :
    left = right := by
  apply eq_of_filter_key Prod.fst (leftSorted.imp Std.le_of_lt) (rightSorted.imp Std.le_of_lt)
  intro name
  rw [leftSorted.filter_key, rightSorted.filter_key, same]

end

/-! ## Ordered values -/

/-- The members of every object within the value are sorted by key. -/
inductive Value.IsOrdered : Value → Prop
  | null : IsOrdered .null
  | bool (value : Bool) : IsOrdered (.bool value)
  | number (value : Number) : IsOrdered (.number value)
  | string (text : String) : IsOrdered (.string text)
  | array {elements : List Value} (each : ∀ element ∈ elements, IsOrdered element) :
    IsOrdered (.array elements)
  | object {members : List (String × Value)} (sorted : SortedByKey members)
    (each : ∀ member ∈ members, IsOrdered member.2) : IsOrdered (.object members)

theorem Value.orderedElements_eq_map (elements : List Value) :
    Value.orderedElements elements = elements.map Value.ordered := by
  induction elements with
  | nil => rfl
  | cons element rest inductionHypothesis =>
      rw [Value.orderedElements, inductionHypothesis, List.map_cons]

theorem Value.orderedMembers_eq_map (members : List (String × Value)) :
    Value.orderedMembers members = members.map fun member => (member.1, member.2.ordered) := by
  induction members with
  | nil => rfl
  | cons member rest inductionHypothesis =>
      rw [Value.orderedMembers, inductionHypothesis, List.map_cons]

theorem Map.mem_of_mem_ofEntries {α : Type} {entries : List (String × α)} {entry : String × α}
    (entryIn : entry ∈ (Map.ofEntries entries).entries) : entry ∈ entries := by
  have gathered : ∀ (later : List (String × α)) (map : Map α),
      entry ∈ (later.foldl (fun map entry => map.insert entry.1 entry.2) map).entries →
        entry ∈ map.entries ∨ entry ∈ later := by
    intro later
    induction later with
    | nil => exact fun map member => .inl member
    | cons next rest inductionHypothesis =>
        intro map member
        rcases inductionHypothesis _ member with earlier | later
        · rcases mem_insertEntry earlier with rfl | before
          · exact .inr (.head _)
          · exact .inl before
        · exact .inr (.tail _ later)
  rcases gathered entries .empty entryIn with none | found
  · cases none
  · exact found

mutual

theorem Value.isOrdered_ordered (value : Value) : value.ordered.IsOrdered := by
  match value with
  | .null => exact .null
  | .bool value => exact .bool value
  | .number value => exact .number value
  | .string text => exact .string text
  | .array elements =>
      rw [Value.ordered]
      exact .array (Value.isOrdered_orderedElements elements)
  | .object members =>
      rw [Value.ordered]
      exact .object (Map.ofEntries _).sorted fun member memberIn =>
        Value.isOrdered_orderedMembers members member (Map.mem_of_mem_ofEntries memberIn)

theorem Value.isOrdered_orderedElements (elements : List Value) :
    ∀ element ∈ Value.orderedElements elements, element.IsOrdered := by
  match elements with
  | [] => exact fun _ member => nomatch member
  | element :: rest =>
      rw [Value.orderedElements, List.forall_mem_cons]
      exact ⟨element.isOrdered_ordered, Value.isOrdered_orderedElements rest⟩

theorem Value.isOrdered_orderedMembers (members : List (String × Value)) :
    ∀ member ∈ Value.orderedMembers members, member.2.IsOrdered := by
  match members with
  | [] => exact fun _ member => nomatch member
  | (key, value) :: rest =>
      rw [Value.orderedMembers, List.forall_mem_cons]
      exact ⟨value.isOrdered_ordered, Value.isOrdered_orderedMembers rest⟩

end

/-- Ordering changes just the values with an object whose members are not sorted. -/
theorem Value.ordered_eq_self_iff {value : Value} : value.ordered = value ↔ value.IsOrdered := by
  constructor
  · intro same
    rw [← same]
    exact value.isOrdered_ordered
  · intro isOrdered
    induction isOrdered with
    | null => rfl
    | bool value => rfl
    | number value => rfl
    | string text => rfl
    | array _ inductionHypothesis =>
        rw [Value.ordered, Value.orderedElements_eq_map, List.map_congr_left inductionHypothesis,
          List.map_id']
    | @object members sorted _ inductionHypothesis =>
        have kept : (members.map fun member => (member.1, member.2.ordered)) = members := by
          refine (List.map_congr_left fun member memberIn => ?_).trans (List.map_id' members)
          rw [inductionHypothesis member memberIn]
        rw [Value.ordered, Value.orderedMembers_eq_map, kept, Map.entries_ofEntries sorted]

/-- Free values are ordered. -/
theorem Value.IsIntegral.isOrdered {value : Value} (integral : value.IsIntegral) :
    value.IsOrdered := by
  induction integral with
  | null => exact .null
  | bool value => exact .bool value
  | integer _ => exact .number _
  | string text => exact .string text
  | array _ inductionHypothesis => exact .array inductionHypothesis
  | object sorted _ inductionHypothesis => exact .object sorted inductionHypothesis

/-- Two objects have one ordered form exactly when each key has, in its last member, values of
one ordered form. -/
theorem Value.ordered_object_eq_iff {left right : List (String × Value)} :
    (Value.object left).ordered = (Value.object right).ordered ↔
      ∀ name, (left.reverse.lookup name).map Value.ordered =
        (right.reverse.lookup name).map Value.ordered := by
  have lookup (members : List (String × Value)) (name : String) :
      (Map.ofEntries (Value.orderedMembers members)).entries.lookup name =
        (members.reverse.lookup name).map Value.ordered := by
    rw [Map.lookup_ofEntries, Value.orderedMembers_eq_map, ← List.map_reverse, lookup_map]
  rw [Value.ordered, Value.ordered, Value.object.injEq]
  constructor
  · intro same name
    rw [← lookup, ← lookup, same]
  · intro same
    apply (Map.ofEntries _).sorted.eq_of_lookup (Map.ofEntries _).sorted
    intro name
    rw [lookup, lookup]
    exact same name

end BillingClient.Json
