/-
  Server/EncodedValues.lean --- values that a client encodes and the server does not
  decode.

  The dashboard in `src/utils/dashboard.html` puts `encodeURIComponent(value)` into
  the targets of its requests.  None of the server's three ways to take a value out
  of a target undoes this: what an endpoint acts on is the encoding.
-/
import GeSensor.Dashboard.RuleApi
import GeSensor.Foundation.PercentEncoding
import GeSensor.Server.Dispatch

set_option autoImplicit false

namespace GeSensor.Server

open GeSensor.Dashboard
open GeSensor.Foundation
open GeSensor.Ips

/-- Where a client puts an encoded value: a parameter of an endpoint's query, or the
last segment of the path of a deletion. -/
inductive ValuePlace where
  /-- `filter` of the storage and of the captures -/
  | storageFilter
  | capturesFilter
  /-- `id` of a capture -/
  | fileId
  | downloadId
  | reconstructId
  /-- `iface` -/
  | iface
  /-- `DELETE /api/ips/rules/{id}` -/
  | ruleId
  deriving DecidableEq, Repr

namespace ValuePlace

def endpoint : ValuePlace → Endpoint
  | storageFilter => .pcapStorage
  | capturesFilter => .pcapCaptures
  | fileId => .pcapFile
  | downloadId => .pcapDownload
  | reconstructId => .pcapReconstruct
  | iface => .setInterface
  | ruleId => .deleteIpsRule

/-- The name of the parameter; the last segment of a path has none. -/
def key : ValuePlace → Option Text
  | storageFilter | capturesFilter => some "filter".toList
  | fileId | downloadId | reconstructId => some "id".toList
  | iface => some "iface".toList
  | ruleId => none

/-- The target that the client sends for a value. -/
def target (place : ValuePlace) (value : Text) : Text :=
  match place.key with
  | some key => place.endpoint.path ++ '?' :: (key ++ '=' :: encodeURIComponent value)
  | none => place.endpoint.path ++ encodeURIComponent value

/-- The target up to the value. -/
def lead (place : ValuePlace) : Text :=
  match place.key with
  | some key => place.endpoint.path ++ '?' :: (key ++ ['='])
  | none => place.endpoint.path

theorem target_eq (place : ValuePlace) (value : Text) :
    place.target value = place.lead ++ encodeURIComponent value := by
  cases place <;> simp [target, lead, key]

/-- What has been read of the target has the value as it is: either the target has been
read whole and the encoding leaves all characters of the value alone, or the read ends in
the encoding of a percent sign, and the value goes on as this encoding does. -/
def ReadPlain (place : ValuePlace) (value read : Text) : Prop :=
  (read = place.target value ∧ ∀ char ∈ value, isUnreserved char = true) ∨
    (read = place.lead ++ value ∧ BeginsAtPercent value)

/-- The arguments of an endpoint that acts on the value. -/
def arguments (place : ValuePlace) (value : Text) : Arguments :=
  match place with
  | storageFilter | capturesFilter => .filter (some value)
  | fileId | downloadId | reconstructId => .captureId (some value)
  | iface => .iface (some value)
  | ruleId => .ruleId (some (some value))

/-- Of the target, a read has the value exactly if it is read plain. -/
theorem readPlain_iff {place : ValuePlace} {value read : Text}
    (h : read <+: place.target value) :
    place.ReadPlain value read ↔ read = place.lead ++ value := by
  rw [target_eq] at h
  unfold ReadPlain
  rw [target_eq]
  constructor
  · rintro (⟨rfl, hplain⟩ | ⟨rfl, -⟩)
    · rw [(encodeURIComponent_eq_self_iff value).mpr hplain]
    · rfl
  · rintro rfl
    rw [List.prefix_append_right_inj, prefix_encodeURIComponent_iff] at h
    rcases h with hplain | hpercent
    · exact Or.inl ⟨by rw [(encodeURIComponent_eq_self_iff value).mpr hplain], hplain⟩
    · exact Or.inr ⟨rfl, hpercent⟩

end ValuePlace

/-! ## What the server reads -/

section

variable {value : Text}

/-- A parameter that stands alone in a query. -/
theorem queryOf_single {path key word : Text} (hpath : '?' ∉ path)
    (hkey : '=' ∉ key ∧ '?' ∉ key ∧ '&' ∉ key) (hmark : '?' ∉ word) (hand : '&' ∉ word) :
    queryOf (path ++ '?' :: (key ++ '=' :: word)) key = some word := by
  have hquery : '?' ∉ key ++ '=' :: word := by simp [hkey, hmark]
  have hpair : '&' ∉ key ++ '=' :: word := by simp [hkey, hand]
  rw [queryOf, splitOn_append_separator_one hpath, takeWhile_of_not_mem hquery, Option.bind_some,
    List.splitOn_eq_singleton hpair, List.findSome?_cons, splitn_append hkey.1]
  dsimp only [splitn]
  rw [if_pos rfl]

/-- The value of `iface`, when it stands alone in a query. -/
theorem findAfter_iface {path : Text} (hpath : ¬ "iface=".toList <:+: path) (word : Text) :
    findAfter (path ++ '?' :: ("iface=".toList ++ word)) "iface=".toList = some word := by
  rw [findAfter_append_separator (by decide) (by decide) hpath, findAfter_append_self]

theorem ifaceText_single {path word : Text} (hpath : ¬ "iface=".toList <:+: path)
    (hword : ∀ char ∈ word, isWhitespace char = false) (hequals : '=' ∉ word)
    (hand : '&' ∉ word) : ifaceText (path ++ '?' :: ("iface=".toList ++ word)) = word := by
  have hagain : ¬ "iface=".toList <:+: word := fun h =>
    hequals (h.subset (by decide : '=' ∈ "iface=".toList))
  have hfound : ifaceWord (path ++ '?' :: ("iface=".toList ++ word)) =
      (splitWhitespace word).head? := by
    rw [ifaceWord_eq_bind, findAfter_iface hpath, Option.bind_some,
      upTo_of_not_occurs (by decide) hagain]
  by_cases hne : word = []
  · subst hne
    exact ifaceText_of_word_eq_none hfound
  · rw [splitWhitespace_word hne hword, List.head?_cons] at hfound
    exact ifaceText_of_word hfound hand (not_mem_of_word hword rfl)

/-- The characters of an encoding. -/
def Encoded (word : Text) : Prop := ∀ char ∈ word, char = '%' ∨ isUnreserved char = true

theorem Encoded.not_mem {word : Text} (h : Encoded word) {char : Char} (hpercent : char ≠ '%')
    (hreserved : isUnreserved char = false) : char ∉ word := by
  intro hmem
  rcases h char hmem with hchar | hchar
  · exact hpercent hchar
  · exact Bool.false_ne_true (hreserved.symm.trans hchar)

theorem Encoded.word {word : Text} (h : Encoded word) :
    ∀ char ∈ word, isWhitespace char = false := by
  intro char hmem
  rcases h char hmem with rfl | hchar
  · decide
  · obtain ⟨hlow, hhigh⟩ := range_of_isUnreserved hchar
    simp [isWhitespace]
    omega

theorem nonEmpty_eq_some_iff {argument : Text} (hvalue : value ≠ []) :
    nonEmpty argument = some value ↔ argument = value := by
  unfold nonEmpty
  split
  · rename_i hempty
    exact iff_of_false (Option.some_ne_none _).symm fun h => hvalue (h.symm.trans hempty)
  · exact Option.some_inj

theorem ValuePlace.lead_of_key {place : ValuePlace} {key : Text} (hkey : place.key = some key) :
    place.lead = place.endpoint.path ++ '?' :: (key ++ ['=']) := by
  rw [ValuePlace.lead, hkey]

theorem ValuePlace.key_plain {place : ValuePlace} {key : Text} (hkey : place.key = some key) :
    '=' ∉ key ∧ '?' ∉ key ∧ '&' ∉ key := by
  cases place <;> cases hkey <;> decide

theorem queryOf_lead {place : ValuePlace} {key word : Text} (hkey : place.key = some key)
    (hmark : '?' ∉ word) (hand : '&' ∉ word) :
    queryOf (place.lead ++ word) key = some word := by
  have hsplit : place.lead ++ word = place.endpoint.path ++ '?' :: (key ++ '=' :: word) := by
    rw [ValuePlace.lead_of_key hkey]
    simp
  rw [hsplit]
  exact queryOf_single place.endpoint.path_plain.2.1 (ValuePlace.key_plain hkey) hmark hand

/-- The server takes what stands in the value's place for the value. -/
theorem asked_lead_iff {place : ValuePlace} {word : Text} (hvalue : value ≠ [])
    (hword : Encoded word) (body : Text) :
    place.endpoint.asked (place.lead ++ word) body = place.arguments value ↔ word = value := by
  have hmark : '?' ∉ word := hword.not_mem (by decide) (by decide)
  have hand : '&' ∉ word := hword.not_mem (by decide) (by decide)
  have hequals : '=' ∉ word := hword.not_mem (by decide) (by decide)
  cases place with
  | storageFilter | capturesFilter =>
      rw [ValuePlace.endpoint, Endpoint.asked, queryOf_lead rfl hmark hand, ValuePlace.arguments,
        Arguments.filter.injEq, Option.some_inj]
  | fileId | downloadId | reconstructId =>
      rw [ValuePlace.endpoint, Endpoint.asked, queryOf_lead rfl hmark hand, ValuePlace.arguments,
        captureIdArgument, Arguments.captureId.injEq, Option.getD_some]
      exact nonEmpty_eq_some_iff hvalue
  | iface =>
      have hpath : ¬ "iface=".toList <:+: "/api/set-interface".toList := by decide
      have hsplit : ValuePlace.iface.lead ++ word =
          "/api/set-interface".toList ++ '?' :: ("iface=".toList ++ word) := rfl
      rw [ValuePlace.endpoint, Endpoint.asked, hsplit, ifaceArgument,
        ifaceText_single hpath hword.word hequals hand, ValuePlace.arguments, Arguments.iface.injEq]
      exact nonEmpty_eq_some_iff hvalue
  | ruleId =>
      have hprefix : "/api/ips/rules/".toList.isPrefixOf
          ("/api/ips/rules/".toList ++ word) = true :=
        List.isPrefixOf_iff_prefix.mpr (List.prefix_append _ _)
      have hstrip : stripPrefix "/api/ips/rules/".toList (ValuePlace.ruleId.lead ++ word) =
          some word := by
        change stripPrefix _ ("/api/ips/rules/".toList ++ word) = _
        rw [stripPrefix, if_pos hprefix, List.drop_left]
      rw [ValuePlace.endpoint, Endpoint.asked, ruleIdArgument, Option.map_some, hstrip,
        ValuePlace.arguments, Arguments.ruleId.injEq, Option.some_inj, Option.some_inj]

/-- A read that ends before the value has no `=` behind the key. -/
theorem queryOf_of_prefix_lead {place : ValuePlace} {key read : Text} (hkey : place.key = some key)
    (hlead : read <+: place.lead) (hne : read ≠ place.lead)
    (hpath : place.endpoint.path <+: read) :
    queryOf read key = none ∧ '=' ∉ read := by
  obtain ⟨hequals, hmark, hand⟩ := ValuePlace.key_plain hkey
  have hplain : '=' ∉ place.endpoint.path := by cases place <;> decide
  obtain ⟨query, rfl⟩ := hpath
  rw [ValuePlace.lead_of_key hkey] at hlead hne
  rw [List.prefix_append_right_inj, ← List.cons_append, List.prefix_concat_iff] at hlead
  rcases hlead with heq | hquery
  · exact absurd (congrArg _ heq) hne
  · rcases List.prefix_cons_iff.mp hquery with rfl | ⟨part, rfl, hpart⟩
    · rw [List.append_nil, queryOf, List.splitOn_eq_singleton place.endpoint.path_plain.2.1]
      exact ⟨rfl, hplain⟩
    · have hpartEquals : '=' ∉ part := fun hmem => hequals (hpart.subset hmem)
      have hpartMark : '?' ∉ part := fun hmem => hmark (hpart.subset hmem)
      have hpartAnd : '&' ∉ part := fun hmem => hand (hpart.subset hmem)
      refine ⟨?_, by simp [hplain, hpartEquals]⟩
      rw [queryOf, splitOn_append_separator_one place.endpoint.path_plain.2.1,
        takeWhile_of_not_mem hpartMark, Option.bind_some, List.splitOn_eq_singleton hpartAnd,
        List.findSome?_singleton, splitn_of_not_mem hpartEquals]

/-- A read that ends before the value gives none. -/
theorem asked_ne_of_prefix_lead {place : ValuePlace} {read : Text} (hlead : read <+: place.lead)
    (hne : read ≠ place.lead) (hpath : place.endpoint.path <+: read) (body : Text) :
    place.endpoint.asked read body ≠ place.arguments value := by
  intro hasked
  cases place with
  | storageFilter | capturesFilter =>
      rw [ValuePlace.endpoint, Endpoint.asked,
        (queryOf_of_prefix_lead rfl hlead hne hpath).1] at hasked
      cases hasked
  | fileId | downloadId | reconstructId =>
      rw [ValuePlace.endpoint, Endpoint.asked,
        (queryOf_of_prefix_lead rfl hlead hne hpath).1] at hasked
      cases hasked
  | iface =>
      have hequals := (queryOf_of_prefix_lead rfl hlead hne hpath).2
      have hnone : findAfter read "iface=".toList = none :=
        (findAfter_eq_none (by decide)).mpr fun hoccurs =>
          hequals (hoccurs.subset (by decide : '=' ∈ "iface=".toList))
      have hword : ifaceWord read = none := by
        rw [ifaceWord_eq_bind, hnone]
        rfl
      rw [ValuePlace.endpoint, Endpoint.asked, ifaceArgument,
        ifaceText_of_word_eq_none hword] at hasked
      cases hasked
  | ruleId => exact hne (hlead.eq_of_length_le hpath.length_le)

/-- Of the target, a read asks for the value exactly if it has it in the value's place. -/
theorem asked_prefix_iff {place : ValuePlace} {read : Text} (hvalue : value ≠ [])
    (hread : read <+: place.target value) (hpath : place.endpoint.path <+: read) (body : Text) :
    place.endpoint.asked read body = place.arguments value ↔ read = place.lead ++ value := by
  rw [ValuePlace.target_eq] at hread
  by_cases hlead : place.lead <+: read
  · obtain ⟨word, rfl⟩ := hlead
    rw [List.prefix_append_right_inj] at hread
    have hword : Encoded word := fun char hmem => mem_encodeURIComponent (hread.subset hmem)
    rw [asked_lead_iff hvalue hword, List.append_cancel_left_eq]
  · have hshort : read <+: place.lead :=
      (List.prefix_or_prefix_of_prefix hread (List.prefix_append _ _)).resolve_right hlead
    have hne : read ≠ place.lead := fun h => hlead (h ▸ List.prefix_refl _)
    refine iff_of_false (asked_ne_of_prefix_lead hshort hne hpath body) fun h => hlead ?_
    exact h ▸ List.prefix_append _ _

end

/-! ## What the server does -/

/-- The request that a client sends for a value: any version, header fields and body,
behind the method and the target. -/
structure SentFor (place : ValuePlace) (value : Text) (request : HttpRequest) : Prop where
  method : request.method = place.endpoint.method.text
  target : request.target = place.target value

/-- Only one endpoint is for deletions. -/
theorem endpointNamed_delete {target : Text} (h : Endpoint.deleteIpsRule.path <+: target) :
    endpointNamed Method.delete.text target = some .deleteIpsRule := by
  have hroutes : routes = routes.take 17 ++ .deleteIpsRule :: routes.drop 18 := rfl
  have hbefore : ∀ other ∈ routes.take 17, other.method ≠ .delete := by decide
  rw [endpointNamed, List.find?_eq_some_iff_append]
  refine ⟨?_, _, _, hroutes, fun other hother => ?_⟩
  · exact Bool.and_eq_true_iff.mpr ⟨by decide, List.isPrefixOf_iff_prefix.mpr h⟩
  · rw [Bool.not_eq_true', Endpoint.names, Bool.and_eq_false_iff, beq_eq_false_iff_ne]
    exact Or.inl fun heq => hbefore other hother (Method.text_injective heq)

/-- The target names the endpoint. -/
theorem SentFor.named {place : ValuePlace} {value : Text} {request : HttpRequest}
    (h : SentFor place value request) : request.named = some place.endpoint := by
  rw [HttpRequest.named, h.method, h.target]
  cases place with
  | ruleId => exact endpointNamed_delete (List.prefix_append _ _)
  | _ => exact endpointNamed_path _ (Or.inr ⟨_, rfl⟩)

namespace SentFor

variable {place : ValuePlace} {value : Text} {request : HttpRequest} {read : Text}

/-- Of the target, a read has a first part. -/
theorem targetIn_prefix (h : SentFor place value request) (hopens : request.Opens read) :
    request.targetIn read <+: place.target value := by
  have hascii : ∀ char ∈ place.target value, char.toNat < 0x80 := by
    have hlead : (place.lead.all fun char => decide (char.toNat < 0x80)) = true := by
      cases place <;> decide
    rw [ValuePlace.target_eq]
    intro char hmem
    rcases List.mem_append.mp hmem with hmem | hmem
    · exact of_decide_eq_true (List.all_eq_true.mp hlead char hmem)
    · rcases mem_encodeURIComponent hmem with rfl | hchar
      · decide
      · exact Nat.lt_of_le_of_lt (range_of_isUnreserved hchar).2 (by decide)
  rw [← h.target] at hascii ⊢
  exact hopens.target.prefix_of_ascii hascii

/-- The value of `iface` is found in the target. -/
theorem parametersIn (h : SentFor place value request) (hvalue : value ≠ [])
    (hopens : request.Opens read) :
    place.endpoint.ParametersIn (request.targetIn read) (request.behindIn read) := by
  rcases hopens.whole with hwhole | hend
  · rw [hwhole, h.target]
    cases place with
    | iface =>
        have hpath : ¬ "iface=".toList <:+: "/api/set-interface".toList := by decide
        have hfound : findAfter (ValuePlace.iface.target value) "iface=".toList =
            some (encodeURIComponent value) := findAfter_iface hpath _
        change IfaceIn _ _
        unfold IfaceIn
        rw [hfound]
        exact Or.inl (encodeURIComponent_ne_nil hvalue)
    | _ => trivial
  · rw [hend]
    exact HttpRequest.parametersIn_nil _ _

/-- The server acts on the value exactly if it reads it plain and selects the endpoint. -/
theorem dispatch_iff (h : SentFor place value request) (hvalue : value ≠ [])
    (hread : LossyPrefix read request.text) :
    dispatch read = .endpoint place.endpoint (place.arguments value) ↔
      request.UndisturbedIn read ∧ place.ReadPlain value (request.targetIn read) := by
  have hbody : place.endpoint.takesBody = false := by cases place <;> rfl
  have hasked : ∀ hpattern : place.endpoint.pattern <+: read,
      place.endpoint.arguments read = place.arguments value ↔
        place.ReadPlain value (request.targetIn read) := by
    intro hpattern
    have hopens := HttpRequest.opens_of_begins hread hpattern
    have hprefix := h.targetIn_prefix hopens
    have hpath := HttpRequest.path_prefix_targetIn h.method.symm hopens hpattern
    have hparameters := h.parametersIn hvalue hopens
    rw [(HttpRequest.arguments_targetIn_iff h.method.symm hread hpattern hbody []).mpr
      hparameters, ValuePlace.readPlain_iff hprefix, asked_prefix_iff hvalue hprefix hpath]
  rw [dispatch_eq_endpoint_iff, HttpRequest.foundIn_iff_begins h.named hread,
    HttpRequest.UndisturbedIn, h.named]
  constructor
  · rintro ⟨⟨hpattern, hbefore⟩, harguments⟩
    exact ⟨hbefore, (hasked hpattern).mp harguments⟩
  · rintro ⟨hbefore, hplain⟩
    have hlead : place.lead <+: request.targetIn read := by
      rcases hplain with ⟨heq, -⟩ | ⟨heq, -⟩
      · rw [heq, ValuePlace.target_eq]
        exact List.prefix_append _ _
      · exact heq ▸ List.prefix_append _ _
    have hpath : place.endpoint.path <+: request.targetIn read := by
      refine List.IsPrefix.trans ?_ hlead
      cases place <;> decide
    have hopens : request.Opens read := by
      refine HttpRequest.opens_of_targetIn hread fun hnil => ?_
      rw [hnil, List.prefix_nil] at hpath
      cases place <;> cases hpath
    have hpattern : place.endpoint.pattern <+: read := by
      rw [Endpoint.pattern, ← h.method, hopens.read_eq, List.prefix_append_right_inj,
        List.prefix_cons_inj]
      exact hpath.trans (List.prefix_append _ _)
    exact ⟨⟨hpattern, hbefore⟩, (hasked hpattern).mpr hplain⟩

end SentFor

/-- The rule id that the server gives to `delete_ips_rule`. -/
def deletedRuleId : ApiCall → Option Text
  | .endpoint .deleteIpsRule (.ruleId (some (some ruleId))) => nonEmpty ruleId
  | _ => none

/-- The rules after the server has done what it does for a request. -/
def engineAfter (engine : IpsEngine) (call : ApiCall) : IpsEngine :=
  match deletedRuleId call with
  | some ruleId => (engine.removeRule (String.ofList ruleId)).2
  | none => engine

theorem deletedRuleId_eq_some_iff {call : ApiCall} {ruleId : Text} (hruleId : ruleId ≠ []) :
    deletedRuleId call = some ruleId ↔
      call = .endpoint .deleteIpsRule (.ruleId (some (some ruleId))) := by
  constructor
  · intro hdeleted
    unfold deletedRuleId at hdeleted
    split at hdeleted
    · rw [(nonEmpty_eq_some_iff hruleId).mp hdeleted]
    · cases hdeleted
  · rintro rfl
    exact if_neg hruleId

/-- Deleting an id removes its rules and no others. -/
theorem hasRule_removeRule (engine : IpsEngine) (ruleId other : String) :
    hasRule (engine.removeRule other).2 ruleId = (hasRule engine ruleId && ruleId != other) := by
  rw [Bool.eq_iff_iff, Bool.and_eq_true, bne_iff_ne, hasRule, hasRule, List.any_eq_true,
    List.any_eq_true]
  constructor
  · rintro ⟨rule, hmem, hid⟩
    obtain ⟨hmem, hkept⟩ := List.mem_filter.mp hmem
    exact ⟨⟨rule, hmem, hid⟩, beq_iff_eq.mp hid ▸ bne_iff_ne.mp hkept⟩
  · rintro ⟨⟨rule, hmem, hid⟩, hne⟩
    refine ⟨rule, List.mem_filter.mpr ⟨hmem, ?_⟩, hid⟩
    exact bne_iff_ne.mpr (beq_iff_eq.mp hid ▸ hne)

/-- A rule is removed exactly if its id is what the server acts on. -/
theorem removed_iff {value : Text} (hvalue : value ≠ []) {engine : IpsEngine}
    (hrule : hasRule engine (String.ofList value) = true) (call : ApiCall) :
    hasRule (engineAfter engine call) (String.ofList value) = false ↔
      call = .endpoint .deleteIpsRule (.ruleId (some (some value))) := by
  rw [← deletedRuleId_eq_some_iff hvalue]
  unfold engineAfter
  cases deletedRuleId call with
  | none =>
      refine iff_of_false (fun h => ?_) (Option.some_ne_none _).symm
      exact Bool.false_ne_true (h.symm.trans hrule)
  | some ruleId =>
      dsimp only
      rw [hasRule_removeRule, hrule, Bool.true_and, bne_eq_false_iff_eq, String.ofList_inj, eq_comm,
        Option.some_inj]

/-- For every place, every value that is not empty, every request that a client sends for
the value, and every part of it that the server's read finds: the server acts on the value,
and removes the rule with this id, exactly if no endpoint that is tried earlier is found in
the text read, and this text has the value plain. -/
theorem acts_on_value_iff {place : ValuePlace} {value : Text} {request : HttpRequest}
    (hvalue : value ≠ []) (hsent : SentFor place value request) (arrived : Nat) :
    (dispatch (request.received arrived) = .endpoint place.endpoint (place.arguments value) ↔
        request.UndisturbedIn (request.received arrived) ∧
          place.ReadPlain value (request.targetIn (request.received arrived))) ∧
      (place = .ruleId → ∀ engine, hasRule engine (String.ofList value) = true →
        (hasRule (engineAfter engine (dispatch (request.received arrived)))
            (String.ofList value) = false ↔
          request.UndisturbedIn (request.received arrived) ∧
            place.ReadPlain value (request.targetIn (request.received arrived)))) := by
  have hiff := hsent.dispatch_iff hvalue (request.lossyPrefix_received arrived)
  refine ⟨hiff, ?_⟩
  rintro rfl engine hrule
  rw [← hiff]
  exact removed_iff hvalue hrule _

/-! ## Requests of the dashboard -/

/-- The deletion of a default rule. -/
def deletePlainRule : HttpRequest :=
  { plainRequest with
    method := "DELETE".toList
    target := "/api/ips/rules/GE-NET-001".toList
    method_ne_nil := by decide
    method_word := word_of_all rfl
    target_ne_nil := by decide
    target_word := word_of_all rfl }

theorem deletePlainRule_sent : SentFor .ruleId "GE-NET-001".toList deletePlainRule :=
  ⟨rfl, by decide⟩

/-- An engine with one rule of the given id. -/
def engineWithRule (ruleId : String) : IpsEngine :=
  (IpsEngine.new .tap .pass).addRule
    { id := ruleId, description := "ssh", severity := "high", action := .drop, criteria := {},
      enabled := true }

/-- The rule is removed: the request is read whole, and nothing is to be encoded. -/
theorem acts_on_plain_rule :
    hasRule (engineAfter (engineWithRule "GE-NET-001")
      (dispatch (deletePlainRule.received bufferSize))) (String.ofList "GE-NET-001".toList) =
        false := by
  have hread : deletePlainRule.received bufferSize = deletePlainRule.text :=
    deletePlainRule.received_eq_text (by decide) (by decide)
  have hunseen : ((triedBefore deletePlainRule.named).all
      fun endpoint => !endpoint.guard deletePlainRule.text) = true := by
    decide
  have hplain : ("GE-NET-001".toList.all isUnreserved) = true := by decide
  refine ((acts_on_value_iff (by decide) deletePlainRule_sent bufferSize).2 rfl _ (by decide)).mpr
    ⟨fun endpoint hendpoint hfound => ?_, Or.inl ⟨?_, List.all_eq_true.mp hplain⟩⟩
  · have hguard := List.all_eq_true.mp hunseen endpoint hendpoint
    rw [hread] at hfound
    rw [Endpoint.guard_iff.mpr hfound] at hguard
    cases hguard
  · rw [hread]
    decide

/-- A filter for a flow, and the deletion of a rule whose id has a space. -/
def filterFlow : HttpRequest :=
  { plainRequest with
    target := "/api/pcap/storage?filter=10.0.0.1%3A443".toList
    target_ne_nil := by decide
    target_word := word_of_all rfl }

def deleteSpacedRule : HttpRequest :=
  { deletePlainRule with
    target := "/api/ips/rules/block%20ssh".toList
    target_ne_nil := by decide
    target_word := word_of_all rfl }

/-- The server filters by the encoded text, and the rule stays. -/
theorem encoded_values_not_decoded :
    SentFor .storageFilter "10.0.0.1:443".toList filterFlow ∧
      dispatch (filterFlow.received bufferSize) =
        .endpoint .pcapStorage (.filter (some "10.0.0.1%3A443".toList)) ∧
      SentFor .ruleId "block ssh".toList deleteSpacedRule ∧
      hasRule (engineWithRule "block ssh") "block ssh" = true ∧
      hasRule (engineAfter (engineWithRule "block ssh")
        (dispatch (deleteSpacedRule.received bufferSize))) "block ssh" = true := by
  have hfilter : filterFlow.received bufferSize = filterFlow.text :=
    filterFlow.received_eq_text (by decide) (by decide)
  have hdelete : deleteSpacedRule.received bufferSize = deleteSpacedRule.text :=
    deleteSpacedRule.received_eq_text (by decide) (by decide)
  rw [hfilter, hdelete]
  exact ⟨⟨rfl, by decide⟩, by decide, ⟨rfl, by decide⟩, by decide, by decide⟩

end GeSensor.Server
