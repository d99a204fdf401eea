import BillingClient.Http.Report
import BillingClient.Proofs.Http.Draft
import BillingClient.Proofs.Json.Ordered

/-!
Contract: what a record of requests and responses shows.

`Header.Reports` says which headers stand for others in a record: they are in the order of their
names, and have for each name the same values in the same order, but for the connection. Main
statements: `Header.reports_iff`, by which a record has just those headers, and
`Message.reportedBody_eq_json_iff` for bodies.
-/

namespace BillingClient.Http

open BillingClient.Json
open BillingClient.Text

namespace Header

/-! ## Headers in order -/

/-- Whether headers are in the order of their names. -/
def InOrder (headers : List Header) : Prop :=
  headers.Pairwise fun first second => first.name ≤ second.name

theorem filter_name (headers : List Header) (name : String) :
    headers.filter (·.name = name) = (values headers name).map fun value => ⟨name, value⟩ := by
  have named : ∀ header ∈ headers.filter (·.name = name), Header.mk name header.value = header := by
    intro header member
    rw [← of_decide_eq_true (List.mem_filter.1 member).2]
  rw [values, List.map_map]
  exact (List.map_id' _).symm.trans (List.map_congr_left fun header member =>
    (named header member).symm)

/-- Headers in order are determined by the values of each name. -/
theorem eq_of_values {left right : List Header} (leftInOrder : InOrder left)
    (rightInOrder : InOrder right) (same : ∀ name, values left name = values right name) :
    left = right := by
  apply eq_of_filter_key Header.name leftInOrder rightInOrder
  intro name
  rw [filter_name, filter_name, same]

section

variable (headers : List Header)

theorem inOrder_mergeSort :
    InOrder (headers.mergeSort fun first second => first.name ≤ second.name) := by
  have inOrder : (headers.mergeSort fun first second => first.name ≤ second.name).Pairwise
      fun first second => decide (first.name ≤ second.name) = true :=
    List.pairwise_mergeSort (by simpa using fun _ _ _ => String.le_trans)
      (by simpa using fun _ _ => String.le_total _ _) headers
  exact inOrder.imp of_decide_eq_true

/-- Headers of one name keep their order where headers are sorted by name. -/
theorem values_mergeSort (name : String) :
    values (headers.mergeSort fun first second => first.name ≤ second.name) name =
      values headers name := by
  have equalNames : (headers.filter (·.name = name)).Pairwise
      fun first second => decide (first.name ≤ second.name) = true := by
    refine List.pairwise_iff_forall_sublist.2 fun {first second} pair => ?_
    have named (header : Header) (member : header ∈ [first, second]) : header.name = name :=
      of_decide_eq_true (List.mem_filter.1 (pair.subset member)).2
    rw [named first (.head _), named second (.tail _ (.head _))]
    exact decide_eq_true (Std.le_refl name)
  have kept : (headers.filter (·.name = name)).Sublist
      (headers.mergeSort fun first second => first.name ≤ second.name) :=
    List.sublist_mergeSort (by simpa using fun _ _ _ => String.le_trans)
      (by simpa using fun _ _ => String.le_total _ _) equalNames List.filter_sublist
  have named := kept.filter (·.name = name)
  rw [List.filter_filter] at named
  simp only [Bool.and_self] at named
  unfold values
  rw [named.eq_of_length ((List.mergeSort_perm _ _).symm.filter _).length_eq]

end

/-! ## Records -/

/-- Whether some headers stand for others in a record. -/
structure Reports (shown headers : List Header) : Prop where
  inOrder : InOrder shown
  values_eq : ∀ name, values shown name =
    if name ∈ connectionHeaders then [] else values headers name

theorem reports_reportedHeaders (headers : List Header) :
    Reports (reportedHeaders headers) headers where
  inOrder := inOrder_mergeSort _
  values_eq name := by
    unfold reportedHeaders
    rw [values_mergeSort]
    split
    · rename_i left
      apply values_eq_nil
      rintro header member rfl
      have stays := (List.mem_filter.1 member).2
      simp [left] at stays
    · rename_i stays
      exact values_without stays headers

/-- A record has just the headers that stand for those of the message. -/
theorem reports_iff {shown headers : List Header} :
    Reports shown headers ↔ reportedHeaders headers = shown := by
  have reports := reports_reportedHeaders headers
  constructor
  · intro shows
    apply eq_of_values reports.inOrder shows.inOrder
    intro name
    rw [reports.values_eq, shows.values_eq]
  · rintro rfl
    exact reports

end Header

/-- A body is shown as a value just where one is asked for, the message says that it is JSON, and
the body is the text of that value. -/
theorem Message.reportedBody_eq_json_iff {asText : Bool} {message : Message} {value : Value} :
    message.reportedBody asText = .object [("json", value)] ↔
      asText = false ∧ message.isJson = true ∧ ∃ body, message.body = some body ∧ body ≠ "" ∧
        Codec.free.ofBytes? (Utf8.encode body) = some value := by
  unfold reportedBody
  cases message.body with
  | none => simp
  | some body =>
      by_cases empty : body = ""
      · simp [empty]
      · have notEmpty : body.isEmpty = false := by simpa using empty
        simp only [notEmpty, Option.some.injEq, exists_eq_left', ne_eq, empty, not_false_eq_true,
          true_and]
        generalize Codec.free.ofBytes? (Utf8.encode body) = read
        cases asText <;> cases message.isJson <;> cases read <;> simp

end BillingClient.Http
