import BillingClient.Client.Basic
import BillingClient.Proofs.Url.Server

/-!
Contract: the URL of a resource is under the server URL.

A resource has fixed segments, and one more for a text that may be anything. Main statement:
`exists_urlOf_resource`, for a server URL without blanks at its ends, query and fragment.
-/

namespace BillingClient

open BillingClient.Text
open BillingClient.Url

/-! ## Server URLs -/

/-- The base of a server URL is followed by slashes only. -/
theorem Client.Config.toList_serverUrl (config : Config) :
    config.serverUrl.toList =
      config.baseUrl.toList ++ List.replicate (slashCount config.serverUrl) '/' :=
  (toList_withoutSlashes_append config.serverUrl).symm

/-- The server URL of a client is a web address. -/
theorem Client.exists_server (client : Client) : ∃ server,
    client.config.validate = .ok server ∧ Url.parse client.config.serverUrl = .ok server ∧
      Http.isWebAddress server = true := by
  obtain ⟨server, valid, _⟩ := exists_of_bind_eq_ok client.isAccepted
  refine ⟨server, valid, ?_⟩
  unfold Config.validate at valid
  split at valid
  · cases valid
  · rename_i url parsed
    split at valid
    · rename_i isWeb
      cases valid
      exact ⟨parsed, isWeb⟩
    · cases valid

/-! ## Resources -/

/-- The fixed segments at the front of the path of every resource. -/
def apiSegments : List String :=
  ["1.0", "kb"]

theorem isFixedSegment_apiSegments : ∀ segment ∈ apiSegments, IsFixedSegment segment := by
  decide

/-- The path of a URL that goes on with nothing but its slash. -/
theorem pieces_goingOn_nil (scheme : String) (authority : Authority) {entered : List String}
    (slashless : ∀ segment ∈ entered, IsSlashless segment) :
    (goingOn scheme authority entered []).pieces = entered.reverse ++ [""] := by
  have walked : walk entered ((divideSegments true []).map Step.ofSegment) =
      entered.reverse ++ [""] := by
    show ("" :: entered).reverse = _
    rw [List.reverse_cons]
  unfold goingOn
  rw [walked, pieces_eq]
  rw [List.forall_mem_append, List.forall_mem_singleton]
  exact ⟨fun segment segmentIn => slashless segment (List.mem_reverse.1 segmentIn),
    List.not_mem_nil⟩

/-- The path of a resource after its first slash. -/
def resourceTail (list : List String) : List Char :=
  (Form.encodeSegment "1.0").toList ++ (Client.Request.segments ("kb" :: list)).toList

theorem toList_resource (list : List String) :
    (Client.Request.resource list).toList = '/' :: resourceTail list := by
  unfold Client.Request.resource resourceTail
  rw [toList_segments, List.flatMap_cons, ← toList_segments, List.cons_append]

theorem baseUrl_append_resource (config : Client.Config) (list : List String) :
    config.baseUrl ++ Client.Request.resource list =
      String.ofList (config.baseUrl.toList ++ '/' :: resourceTail list) := by
  rw [← String.toList_inj, String.toList_append, String.toList_ofList, toList_resource]

theorem divideSegments_resourceTail (list : List String) :
    divideSegments true (resourceTail list) =
      (apiSegments ++ list).map fun segment => (Form.encodeSegment segment).toList :=
  divideSegments_segments true "1.0" ("kb" :: list)

theorem isPathText_resourceTail (list : List String) : IsPathText (resourceTail list) := by
  have ofSegment (text : String) : IsPathText (Form.encodeSegment text).toList := by
    intro c charIn
    obtain ⟨ascii, plain⟩ := Form.isPlain_or_of_mem_encodeSegment charIn
    exact forall_ascii (fun c => Form.isPlain c = true ∨ c = '%' →
      0x20 < c.toNat ∧ c ≠ '?' ∧ c ≠ '#') (by decide) ascii plain
  unfold resourceTail
  rw [toList_segments]
  intro c charIn
  rcases List.mem_append.1 charIn with inFirst | inRest
  · exact ofSegment "1.0" c inFirst
  · obtain ⟨segment, _, charIn⟩ := List.mem_flatMap.1 inRest
    rcases List.mem_cons.1 charIn with rfl | charIn
    · decide
    · exact ofSegment segment c charIn

/-- The path of a URL that goes on with a resource of a text. -/
theorem pieces_goingOn (scheme : String) (authority : Authority) {entered fixed : List String}
    (text : String) (slashless : ∀ segment ∈ entered, IsSlashless segment)
    (areFixed : ∀ segment ∈ fixed, IsFixedSegment segment) :
    (goingOn scheme authority entered (resourceTail (fixed ++ [text]))).pieces =
      reached (entered.reverse ++ (apiSegments ++ fixed)) text := by
  have allFixed := List.forall_mem_append.2 ⟨isFixedSegment_apiSegments, areFixed⟩
  have frontSlashless : ∀ segment ∈ entered.reverse ++ (apiSegments ++ fixed),
      IsSlashless segment := by
    rw [List.forall_mem_append]
    exact ⟨fun segment segmentIn => slashless segment (List.mem_reverse.1 segmentIn),
      fun segment segmentIn => (allFixed segment segmentIn).isSlashless⟩
  unfold goingOn
  rw [divideSegments_resourceTail, ← List.append_assoc, walk_segments entered text allFixed]
  exact pieces_eq fun segment => isSlashless_of_mem_reached frontSlashless

/-- Whether a path has segments of a server, fixed ones, and just one more, which is read as the
bytes of a text. -/
def LeadsTo (own fixed : List String) (text : String) (pieces : List String) : Prop :=
  ∃ segment, pieces = own ++ fixed ++ [segment] ∧ Percent.decode segment = Utf8.encode text

/-- A text leads to a segment of its own, unless it is a step of a path. -/
theorem leadsTo_reached_iff (own : List String) {fixed : List String} (text : String)
    (hasFixed : fixed ≠ []) :
    LeadsTo own fixed text (reached (own ++ fixed) text) ↔ text ≠ "." ∧ text ≠ ".." := by
  unfold reached
  by_cases dot : text = "."
  · subst dot
    rw [if_pos rfl]
    refine iff_of_false ?_ fun both => both.1 rfl
    -- The last segment is empty, and so are its bytes.
    rintro ⟨segment, whole, bytes⟩
    obtain rfl := List.singleton_inj.1 (List.append_cancel_left whole)
    exact absurd bytes (by decide)
  · by_cases dots : text = ".."
    · subst dots
      rw [if_neg dot, if_pos rfl]
      refine iff_of_false ?_ fun both => both.2 rfl
      -- One segment is missing.
      rintro ⟨segment, whole, _⟩
      have sameLength := congrArg List.length whole
      have isPositive : 0 < fixed.length := List.length_pos_iff.2 hasFixed
      simp only [List.length_append, List.length_dropLast, List.length_singleton] at sameLength
      omega
    · rw [if_neg dot, if_neg dots]
      exact iff_of_true ⟨_, rfl, Form.decode_encodeSegment text⟩ ⟨dot, dots⟩

/-- The URL of a resource of a text: where it leads, by the text. -/
theorem exists_urlOf_resource (client : Client)
    (plain : IsPlainText client.config.serverUrl.toList) :
    ∃ server own, client.config.validate = .ok server ∧
      (∃ home, Url.parse (client.config.baseUrl ++ "/") = .ok home ∧ home.pieces = own ++ [""]) ∧
      ∀ fixed text query, (∀ segment ∈ fixed, IsFixedSegment segment) →
        ∃ url, client.urlOf (Client.Request.resource (fixed ++ [text])) query = .ok url ∧
          url.scheme = server.scheme ∧ url.authority = server.authority ∧
          url.pieces = reached (own ++ (apiSegments ++ fixed)) text := by
  obtain ⟨server, valid, parsed, isWeb⟩ := client.exists_server
  have whole := client.config.toList_serverUrl
  rw [whole] at plain
  rw [← String.ofList_toList (s := client.config.serverUrl), whole] at parsed
  obtain ⟨authority, entered, isAuthority, slashless, under⟩ :=
    parse_server_path plain parsed isWeb
  refine ⟨server, entered.reverse, valid, ?_, fun fixed text query areFixed => ?_⟩
  · have slash : client.config.baseUrl ++ "/" =
        String.ofList (client.config.baseUrl.toList ++ ['/']) := by
      rw [String.ofList_append, String.ofList_toList]
    rw [slash]
    exact ⟨_, under [] (List.forall_mem_nil _), pieces_goingOn_nil _ _ slashless⟩
  · have path := under _ (isPathText_resourceTail (fixed ++ [text]))
    refine ⟨(goingOn server.scheme authority entered
      (resourceTail (fixed ++ [text]))).appendPairs query.pairs, ?_, rfl, isAuthority.symm, ?_⟩
    · unfold Client.urlOf
      rw [baseUrl_append_resource, path]
    · rw [pieces_appendPairs, pieces_goingOn _ _ text slashless areFixed]

end BillingClient
