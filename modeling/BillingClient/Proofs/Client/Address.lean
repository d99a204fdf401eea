import BillingClient.Proofs.Client.Resource
import BillingClient.Proofs.Url.Base

/-!
Contract: what the address of a resource says of it.

The segments of a resource and the parameters of a request for it can be told from the text of the
URL that the request goes to. Main statement: `eq_of_text_target`.
-/

namespace BillingClient

open BillingClient.Client
open BillingClient.Http
open BillingClient.Text
open BillingClient.Url

/-! ## Texts -/

/-- Texts that end at the first mark are the same when they are so with what follows. -/
theorem Text.append_inj_of_mark {mark : Char} {left right leftRest rightRest : List Char}
    (leftFree : mark ∉ left) (rightFree : mark ∉ right)
    (leftEnds : ∀ c ∈ leftRest.head?, c = mark) (rightEnds : ∀ c ∈ rightRest.head?, c = mark)
    (same : left ++ leftRest = right ++ rightRest) : left = right ∧ leftRest = rightRest := by
  have front {text rest : List Char} (free : mark ∉ text) (ends : ∀ c ∈ rest.head?, c = mark) :
      (text ++ rest).takeWhile (· ≠ mark) = text := by
    have others : ∀ c ∈ text, decide (c ≠ mark) = true := by
      intro c charIn
      rw [decide_eq_true_eq]
      rintro rfl
      exact free charIn
    rw [List.takeWhile_append_of_pos others]
    cases rest with
    | nil => exact List.append_nil text
    | cons c rest => rw [List.takeWhile_cons_of_neg (by simp [ends c rfl]), List.append_nil]
  have sameFront : left = right := by
    rw [← front leftFree leftEnds, same, front rightFree rightEnds]
  subst sameFront
  exact ⟨rfl, List.append_cancel_left same⟩

namespace Url

/-- The text of the URL that a request goes to is its server, its path and its query. -/
theorem exists_text_target (scheme : String) (authority : Authority) : ∃ server : String,
    ∀ segments query,
      (Draft.target ⟨scheme, some authority, .segments segments, query, none⟩).text =
        server ++ segmentsText segments ++ partText "?" query := by
  have written (authority : Authority) (segments : List String) (query : Option String) :
      Url.text ⟨scheme, some authority, .segments segments, query, none⟩ =
        scheme ++ ":" ++ authority.text ++ segmentsText segments ++ partText "?" query := by
    show scheme ++ ":" ++ authority.text ++ segmentsText segments ++ partText "?" query ++ "" = _
    rw [String.append_empty]
  -- Whether there is a user to leave out depends on the authority alone.
  have sameUser (segments : List String) (query : Option String) :
      Draft.urlUser? ⟨scheme, some authority, .segments segments, query, none⟩ =
        Draft.urlUser? ⟨scheme, some authority, .segments [], none, none⟩ :=
    rfl
  cases user : Draft.urlUser? ⟨scheme, some authority, .segments [], none, none⟩ with
  | none =>
      refine ⟨scheme ++ ":" ++ authority.text, fun segments query => ?_⟩
      unfold Draft.target
      rw [sameUser, user]
      exact written authority segments query
  | some user =>
      refine ⟨scheme ++ ":" ++ Authority.text { authority with username := "", password := "" },
        fun segments query => ?_⟩
      unfold Draft.target
      rw [sameUser, ‹Draft.urlUser? _ = _›]
      exact written _ segments query

/-! ## Segments and parameters -/

theorem segmentsText_map_encodeSegment (list : List String) :
    segmentsText (list.map Form.encodeSegment) = Request.segments list := by
  unfold segmentsText Request.segments
  rw [List.map_map]
  rfl

theorem segments_inj {left right : List String}
    (same : Request.segments left = Request.segments right) : left = right := by
  have divided (list : List String) : Form.splitAt '/' (Request.segments list).toList =
      [] :: list.map fun segment => (Form.encodeSegment segment).toList := by
    have slashless : ∀ segment ∈ list.map Form.encodeSegment, IsSlashless segment := by
      rw [List.forall_mem_map]
      exact fun segment _ => isSlashless_encodeSegment segment
    rw [← segmentsText_map_encodeSegment, splitAt_segmentsText slashless, List.map_map]
    rfl
  have sameTexts : left.map (fun segment => (Form.encodeSegment segment).toList) =
      right.map fun segment => (Form.encodeSegment segment).toList := by
    rw [← List.cons_inj_right [], ← divided, same, divided]
  refine List.map_injective_iff.2 (fun first second sameText => ?_) sameTexts
  exact Form.encodeSegment_inj (String.toList_inj.1 sameText)

@[simp] theorem resource_inj {left right : List String} :
    Request.resource left = Request.resource right ↔ left = right := by
  constructor
  · intro same
    have sameSegments := segments_inj same
    rw [List.cons_inj_right, List.cons_inj_right] at sameSegments
    exact sameSegments
  · exact congrArg Request.resource

theorem partText_inj {delimiter : String} (delimits : delimiter ≠ "") {left right : Option String}
    (same : partText delimiter left = partText delimiter right) : left = right := by
  have mustDelimit (part : String) : delimiter ++ part ≠ "" := by
    intro empty
    exact delimits (String.append_eq_empty_iff.1 empty).1
  cases left with
  | none =>
      cases right with
      | none => rfl
      | some right => exact absurd same.symm (mustDelimit right)
  | some left =>
      cases right with
      | none => exact absurd same (mustDelimit left)
      | some right => rw [(String.append_right_inj delimiter).1 same]

/-- Parameters that make one query out of none are the same. -/
theorem extendQuery_none_inj {left right : List (String × String)}
    (same : extendQuery none left = extendQuery none right) : left = right := by
  cases left with
  | nil =>
      cases right with
      | nil => rfl
      | cons pair right => cases same
  | cons first left =>
      cases right with
      | nil => cases same
      | cons second right => exact Form.writePairs_inj (Option.some.inj same)

/-- Whether a text is a segment of its own in a path, and no move in it. -/
def IsEntered (text : String) : Prop :=
  text ≠ "." ∧ text ≠ ".."

instance (text : String) : Decidable (IsEntered text) :=
  inferInstanceAs (Decidable (text ≠ "." ∧ text ≠ ".."))

theorem IsFixedSegment.isEntered {text : String} (fixed : IsFixedSegment text) : IsEntered text :=
  ⟨fixed.notDot, fixed.notDots⟩

/-- A walk that only enters segments. -/
theorem walk_entered (entered : List String) {list : List String} (some : list ≠ [])
    (areEntered : ∀ segment ∈ list, IsEntered segment) :
    walk entered ((list.map fun segment => (Form.encodeSegment segment).toList).map
      Step.ofSegment) = entered.reverse ++ list.map Form.encodeSegment := by
  have steps : (list.map fun segment => (Form.encodeSegment segment).toList).map Step.ofSegment =
      (list.map Form.encodeSegment).map .enter := by
    rw [List.map_map, List.map_map]
    apply List.map_congr_left
    intro segment segmentIn
    obtain ⟨notDot, notDots⟩ := areEntered segment segmentIn
    rw [Function.comp_apply, Step.ofSegment_encodeSegment, if_neg notDot, if_neg notDots]
    rfl
  rw [steps]
  apply walk_enter
  rwa [ne_eq, List.map_eq_nil_iff]

/-- The path of a resource stands behind the segments entered before it. -/
theorem segmentsText_walk_resourceTail (entered : List String) {list : List String}
    (areEntered : ∀ segment ∈ list, IsEntered segment) :
    segmentsText (walk entered ((divideSegments true (resourceTail list)).map Step.ofSegment)) =
      segmentsText entered.reverse ++ Request.resource list := by
  have walked := walk_entered entered (List.cons_ne_nil "1.0" ("kb" :: list)) (by
    rw [List.forall_mem_cons, List.forall_mem_cons]
    exact ⟨by decide, by decide, areEntered⟩)
  rw [divideSegments_resourceTail, apiSegments, List.cons_append, List.cons_append,
    List.nil_append, walked, segmentsText_append, segmentsText_map_encodeSegment]
  rfl

end Url

/-! ## Resources -/

/-- Resources of one server differ in the path of their URLs, and in the parameters. -/
theorem Client.exists_urlOf_eq (client : Client) (noQuery : '?' ∉ client.config.serverUrl.toList)
    (noFragment : '#' ∉ client.config.serverUrl.toList) {list : List String} {query : Query}
    {url : Url} (made : client.urlOf (Request.resource list) query = .ok url) :
    ∃ scheme authority entered, ∀ other parameters,
      client.urlOf (Request.resource other) parameters =
        .ok ((goingOn scheme authority entered (resourceTail other)).appendPairs
          parameters.pairs) := by
  obtain ⟨server, _, parsed, isWeb⟩ := client.exists_server
  have whole := client.config.toList_serverUrl
  rw [whole, List.mem_append, not_or] at noQuery noFragment
  rw [← @String.ofList_toList client.config.serverUrl, whole] at parsed
  unfold urlOf at made
  split at made
  · rename_i found parsedPath
    rw [baseUrl_append_resource] at parsedPath
    obtain ⟨authority, entered, under⟩ := parse_base_path noQuery.1 noFragment.1 parsed isWeb
      (isPathText_resourceTail list) parsedPath
    refine ⟨server.scheme, authority, entered, fun other parameters => ?_⟩
    unfold urlOf
    rw [baseUrl_append_resource, under _ (isPathText_resourceTail other)]
  · cases made

/-- The segments of a resource and the parameters can be told from the text of the URL, unless a
segment moves in the path. -/
theorem Client.eq_of_text_target (client : Client) (noQuery : '?' ∉ client.config.serverUrl.toList)
    (noFragment : '#' ∉ client.config.serverUrl.toList) {left right : List String}
    {leftQuery rightQuery : Query} {leftUrl rightUrl : Url}
    (leftEntered : ∀ segment ∈ left, IsEntered segment)
    (rightEntered : ∀ segment ∈ right, IsEntered segment)
    (leftMade : client.urlOf (Request.resource left) leftQuery = .ok leftUrl)
    (rightMade : client.urlOf (Request.resource right) rightQuery = .ok rightUrl)
    (same : (Draft.target leftUrl).text = (Draft.target rightUrl).text) :
    left = right ∧ leftQuery = rightQuery := by
  obtain ⟨scheme, authority, entered, under⟩ := client.exists_urlOf_eq noQuery noFragment leftMade
  obtain ⟨server, textIs⟩ := exists_text_target scheme authority
  -- What stands before the path of a resource is the same for all of them.
  have text {list : List String} {query : Query} {url : Url}
      (areEntered : ∀ segment ∈ list, IsEntered segment)
      (made : client.urlOf (Request.resource list) query = .ok url) :
      (Draft.target url).text = server ++ segmentsText entered.reverse ++
        (Request.resource list ++ partText "?" (extendQuery none query.pairs)) := by
    have whole := under list query
    rw [made] at whole
    cases whole
    show (Draft.target ⟨scheme, some authority, .segments (walk entered
      ((divideSegments true (resourceTail list)).map Step.ofSegment)),
      extendQuery none query.pairs, none⟩).text = _
    rw [textIs, segmentsText_walk_resourceTail entered areEntered, String.append_assoc,
      String.append_assoc, String.append_assoc]
  rw [text leftEntered leftMade, text rightEntered rightMade, String.append_right_inj] at same
  have sameTexts := congrArg String.toList same
  rw [String.toList_append, String.toList_append] at sameTexts
  have noMark (list : List String) : '?' ∉ (Request.resource list).toList := by
    rw [toList_resource, List.mem_cons]
    rintro (slash | inTail)
    · exact absurd slash (by decide)
    · exact (isPathText_resourceTail list '?' inTail).2.1 rfl
  have ends (query : Query) : ∀ c ∈ (partText "?" (extendQuery none query.pairs)).toList.head?,
      c = '?' := by
    intro c isFirst
    cases extended : extendQuery none query.pairs with
    | none =>
        rw [extended] at isFirst
        cases isFirst
    | some part =>
        rw [extended, partText, String.toList_append] at isFirst
        cases isFirst
        rfl
  obtain ⟨samePath, samePart⟩ := Text.append_inj_of_mark (noMark left) (noMark right)
    (ends leftQuery) (ends rightQuery) sameTexts
  have samePairs := extendQuery_none_inj (partText_inj (by decide) (String.toList_inj.1 samePart))
  exact ⟨resource_inj.1 (String.toList_inj.1 samePath), congrArg Query.mk samePairs⟩

end BillingClient
