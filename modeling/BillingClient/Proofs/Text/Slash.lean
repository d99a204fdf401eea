import Mathlib.Data.List.DropRight

/-!
Contract: slashes at the end of a text.

A text is what is left without the slashes at its end, and these: `withoutSlashes_append`.
-/

namespace BillingClient.Text

/-- A text of slashes. -/
def slashes (count : Nat) : String :=
  String.ofList (List.replicate count '/')

/-- A text without the slashes at its end. -/
def withoutSlashes (text : String) : String :=
  String.ofList (text.toList.rdropWhile (· = '/'))

/-- How many slashes stand at the end of a text. -/
def slashCount (text : String) : Nat :=
  (text.toList.rtakeWhile (· = '/')).length

theorem toList_withoutSlashes_append (text : String) :
    (withoutSlashes text).toList ++ List.replicate (slashCount text) '/' = text.toList := by
  have copies : text.toList.rtakeWhile (· = '/') =
      List.replicate (text.toList.rtakeWhile (· = '/')).length '/' := by
    rw [List.eq_replicate_iff]
    exact ⟨rfl, fun c charIn => by simpa using List.mem_rtakeWhile_imp charIn⟩
  unfold withoutSlashes slashCount
  rw [String.toList_ofList, ← copies, List.rdropWhile_append_rtakeWhile]

theorem withoutSlashes_append (text : String) :
    withoutSlashes text ++ slashes (slashCount text) = text := by
  unfold slashes
  rw [← String.toList_inj, String.toList_append, String.toList_ofList,
    toList_withoutSlashes_append]

theorem getLast?_withoutSlashes (text : String) :
    ∀ c ∈ (withoutSlashes text).toList.getLast?, c ≠ '/' := by
  intro c isLast
  unfold withoutSlashes at isLast
  rw [String.toList_ofList] at isLast
  obtain ⟨notEmpty, rfl⟩ := List.mem_getLast?_eq_getLast isLast
  simpa using List.rdropWhile_last_not (· = '/') text.toList notEmpty

theorem slashCount_eq_zero {text : String} (ends : ∀ c ∈ text.toList.getLast?, c ≠ '/') :
    slashCount text = 0 := by
  unfold slashCount
  rw [List.length_eq_zero_iff, List.rtakeWhile_eq_nil_iff]
  intro some
  simpa using ends _ (List.getLast?_eq_some_getLast some)

@[simp] theorem slashCount_withoutSlashes (text : String) : slashCount (withoutSlashes text) = 0 :=
  slashCount_eq_zero (getLast?_withoutSlashes text)

theorem withoutSlashes_eq_self_iff (text : String) :
    withoutSlashes text = text ↔ slashCount text = 0 := by
  unfold withoutSlashes slashCount
  rw [← String.toList_inj, String.toList_ofList, List.length_eq_zero_iff,
    List.rdropWhile_eq_self_iff, List.rtakeWhile_eq_nil_iff]

/-! ## Slashes that are added -/

theorem toList_append_slashes (text : String) (count : Nat) :
    (text ++ slashes (count + 1)).toList = (text ++ slashes count).toList ++ ['/'] := by
  unfold slashes
  rw [String.toList_append, String.toList_append, String.toList_ofList, String.toList_ofList,
    List.replicate_succ', List.append_assoc]

@[simp] theorem append_slashes_zero (text : String) : text ++ slashes 0 = text :=
  String.append_empty

@[simp] theorem withoutSlashes_append_slashes (text : String) (count : Nat) :
    withoutSlashes (text ++ slashes count) = withoutSlashes text := by
  induction count with
  | zero => rw [append_slashes_zero]
  | succ count inductionHypothesis =>
      rw [← inductionHypothesis]
      unfold withoutSlashes
      rw [toList_append_slashes, List.rdropWhile_concat_pos _ _ _ (by decide)]

@[simp] theorem slashCount_append_slashes (text : String) (count : Nat) :
    slashCount (text ++ slashes count) = slashCount text + count := by
  induction count with
  | zero => rw [append_slashes_zero, Nat.add_zero]
  | succ count inductionHypothesis =>
      rw [← Nat.add_assoc, ← inductionHypothesis]
      unfold slashCount
      rw [toList_append_slashes, List.rtakeWhile_concat_pos _ _ _ (by decide), List.length_append]
      rfl

/-- Added slashes are just those at the end, if these are no more than may be added. -/
theorem withoutSlashes_append_slashes_eq_iff {text : String} {count most : Nat}
    (atMost : count ≤ most) (alone : count < most → slashCount text = 0) :
    withoutSlashes (text ++ slashes count) = text ↔ slashCount (text ++ slashes count) ≤ most := by
  rw [withoutSlashes_append_slashes, withoutSlashes_eq_self_iff, slashCount_append_slashes]
  omega

end BillingClient.Text
