/-!
Contract: maps from strings, with their entries sorted by key.

No key occurs twice, so two maps are equal exactly when their entries are. Main
statement: `insertEntry_sorted`, by which `Map.insert` and `Map.ofEntries` keep the
order.
-/

namespace BillingClient.Json

/-- Whether the keys rise along the entries. -/
def SortedByKey {α : Type} (entries : List (String × α)) : Prop :=
  entries.Pairwise fun earlier later => earlier.1 < later.1

/-- Puts an entry into a list sorted by key, in place of one with the same key. -/
def insertEntry {α : Type} (key : String) (value : α) : List (String × α) → List (String × α)
  | [] => [(key, value)]
  | (k, v) :: rest =>
    if key = k then (key, value) :: rest
    else if key < k then (key, value) :: (k, v) :: rest
    else (k, v) :: insertEntry key value rest

theorem mem_insertEntry {α : Type} {key : String} {value : α} {entries : List (String × α)}
    {entry : String × α} (member : entry ∈ insertEntry key value entries) :
    entry = (key, value) ∨ entry ∈ entries := by
  induction entries with
  | nil => simpa [insertEntry] using member
  | cons head rest inductionHypothesis =>
      unfold insertEntry at member
      split at member
      · simp only [List.mem_cons] at member ⊢
        exact member.imp id .inr
      · split at member
        · simp only [List.mem_cons] at member ⊢
          exact member
        · simp only [List.mem_cons] at member ⊢
          rcases member with atHead | later
          · exact .inr (.inl atHead)
          · exact (inductionHypothesis later).imp id .inr

/-- An entry put into sorted entries leaves them sorted. -/
theorem insertEntry_sorted {α : Type} {key : String} {value : α} {entries : List (String × α)}
    (sorted : SortedByKey entries) : SortedByKey (insertEntry key value entries) := by
  induction entries with
  | nil => simp [insertEntry, SortedByKey]
  | cons head rest inductionHypothesis =>
      have headBelow := (List.pairwise_cons.1 sorted).1
      have restSorted := (List.pairwise_cons.1 sorted).2
      unfold insertEntry
      split
      · rename_i sameKey
        exact List.pairwise_cons.2
          ⟨fun entry member => sameKey ▸ headBelow entry member, restSorted⟩
      · rename_i otherKey
        split
        · rename_i below
          refine List.pairwise_cons.2 ⟨fun entry member => ?_, sorted⟩
          rcases List.mem_cons.1 member with rfl | later
          · exact below
          · exact String.lt_trans below (headBelow entry later)
        · rename_i notBelow
          refine List.pairwise_cons.2 ⟨fun entry member => ?_, inductionHypothesis restSorted⟩
          rcases mem_insertEntry member with rfl | later
          · have atMost : head.1 ≤ key := String.not_lt.1 notBelow
            exact Std.lt_of_le_of_ne atMost (Ne.symm otherKey)
          · exact headBelow entry later

/-- A map from strings. -/
structure Map (α : Type) where
  entries : List (String × α)
  sorted : SortedByKey entries

namespace Map

variable {α β : Type}

/-- The map without entries. -/
def empty : Map α := ⟨[], .nil⟩

instance : Inhabited (Map α) := ⟨empty⟩

instance [BEq α] : BEq (Map α) := ⟨fun left right => left.entries == right.entries⟩

/-- Puts an entry into a map, in place of one with the same key. -/
def insert (map : Map α) (key : String) (value : α) : Map α :=
  ⟨insertEntry key value map.entries, insertEntry_sorted map.sorted⟩

/-- The map of some entries; of several with one key the last counts. -/
def ofEntries (entries : List (String × α)) : Map α :=
  entries.foldl (fun map entry => map.insert entry.1 entry.2) empty

/-- Whether there is no entry. -/
def isEmpty (map : Map α) : Bool :=
  map.entries.isEmpty

end Map

end BillingClient.Json
