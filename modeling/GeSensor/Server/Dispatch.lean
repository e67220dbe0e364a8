/-
  Server/Dispatch.lean --- the routing against the request line.

  `asked` states what a request asks for: the endpoint that its method and target
  name, with arguments from the target and, for `POST`, the body.  The server does
  that exactly for the requests in which no text is found that it searches for
  earlier, whose `iface` and `name` are where the request line ends, and of which its
  one read holds enough.
-/
import GeSensor.Server.Received

set_option autoImplicit false

namespace GeSensor.Server

open GeSensor.Foundation

/-! ## What a request asks for -/

/-- The arguments of an endpoint, from the target and the body only. -/
def Endpoint.asked (endpoint : Endpoint) (target body : Text) : Arguments :=
  match endpoint with
  | .pcapFile | .pcapDownload | .pcapReconstruct =>
      captureIdArgument (queryOf target "id".toList)
  | .setInterface => ifaceArgument target
  | .toggleDissector => dissectorArgument target
  | .getCaptureToggle => enabledArgument (queryOf target "enabled".toList)
  | .pcapStorage | .pcapCaptures => .filter (queryOf target "filter".toList)
  | .postCaptureToggle | .bulkDownload | .addIpsRule | .ipsMode | .postConfig => .body (some body)
  | .deleteIpsRule => ruleIdArgument (some target)
  | .captureManual | .packets | .interfaces | .flows | .ipsRules | .ipsEvents | .ips | .getConfig
  | .state | .metrics | .health => .nothing

/-- The endpoint acts on a body. -/
def Endpoint.takesBody : Endpoint → Bool
  | .postCaptureToggle | .bulkDownload | .addIpsRule | .ipsMode | .postConfig => true
  | _ => false

/-- The method is the endpoint's, and the target has its path up to a question mark; the
path of a deletion goes on with the id of the rule. -/
def Endpoint.names (endpoint : Endpoint) (method target : Text) : Bool :=
  endpoint.method.text == method &&
    if endpoint = .deleteIpsRule then endpoint.path.isPrefixOf target
    else target.takeWhile (· != '?') == endpoint.path

/-- The endpoint that a method and a target name. -/
def endpointNamed (method target : Text) : Option Endpoint :=
  routes.find? (·.names method target)

/-- What a method, a target and a body ask for. -/
def asked (method target body : Text) : ApiCall :=
  match endpointNamed method target with
  | some endpoint => .endpoint endpoint (endpoint.asked target body)
  | none => .dashboard

theorem Endpoint.mem_routes (endpoint : Endpoint) : endpoint ∈ routes := by
  cases endpoint <;> decide

/-- No endpoint hides a later one. -/
theorem routes_pairwise : routes.Pairwise fun earlier later =>
    earlier.method = later.method → ¬ earlier.path <+: later.path := by
  decide +kernel

theorem Method.text_injective : Function.Injective Method.text := by
  intro left right h
  cases left <;> cases right
  all_goals first | rfl | exact absurd h (by decide)

theorem Method.text_plain (method : Method) :
    ' ' ∉ method.text ∧ '\r' ∉ method.text ∧ '\n' ∉ method.text := by
  cases method <;> decide

theorem Endpoint.path_plain (endpoint : Endpoint) : ' ' ∉ endpoint.path ∧ '?' ∉ endpoint.path ∧
    '\r' ∉ endpoint.path ∧ '\n' ∉ endpoint.path := by
  have hroutes : ∀ endpoint ∈ routes, ' ' ∉ endpoint.path ∧ '?' ∉ endpoint.path ∧
      '\r' ∉ endpoint.path ∧ '\n' ∉ endpoint.path := by
    decide +kernel
  exact hroutes endpoint endpoint.mem_routes

theorem Endpoint.prefix_of_names {endpoint : Endpoint} {method target : Text}
    (h : endpoint.names method target = true) :
    endpoint.method.text = method ∧ endpoint.path <+: target := by
  obtain ⟨hmethod, hpath⟩ := Bool.and_eq_true_iff.mp h
  refine ⟨beq_iff_eq.mp hmethod, ?_⟩
  split at hpath
  · exact List.isPrefixOf_iff_prefix.mp hpath
  · rw [← beq_iff_eq.mp hpath]
    exact List.takeWhile_prefix _

/-- The path of an endpoint, with or without a query, names this endpoint. -/
theorem endpointNamed_path (endpoint : Endpoint) {target : Text}
    (htarget : target = endpoint.path ∨ ∃ query, target = endpoint.path ++ '?' :: query) :
    endpointNamed endpoint.method.text target = some endpoint := by
  have hbegins : ∀ other : Endpoint, other.path <+: target ↔ other.path <+: endpoint.path := by
    intro other
    rcases htarget with rfl | ⟨query, rfl⟩
    · rfl
    · exact prefix_append_separator_iff other.path_plain.2.1
  have hpath : target.takeWhile (· != '?') = endpoint.path := by
    rcases htarget with rfl | ⟨query, rfl⟩
    · exact takeWhile_of_not_mem endpoint.path_plain.2.1
    · exact takeWhile_append_separator endpoint.path_plain.2.1
  obtain ⟨before, after, hroutes⟩ := List.append_of_mem endpoint.mem_routes
  rw [endpointNamed, List.find?_eq_some_iff_append]
  refine ⟨?_, before, after, hroutes, fun other hother => ?_⟩
  · rw [Endpoint.names, beq_self_eq_true, Bool.true_and, hpath, beq_self_eq_true]
    split
    · exact List.isPrefixOf_iff_prefix.mpr ((hbegins endpoint).mpr (List.prefix_refl _))
    · rfl
  · have hpairwise := routes_pairwise
    rw [hroutes, List.pairwise_append] at hpairwise
    have hhidden := hpairwise.2.2 other hother endpoint List.mem_cons_self
    rw [Bool.not_eq_true', ← Bool.not_eq_true]
    intro hnames
    obtain ⟨hmethod, hother⟩ := Endpoint.prefix_of_names hnames
    exact hhidden (Method.text_injective hmethod) ((hbegins other).mp hother)

/-! ## Which endpoint answers -/

/-- The endpoints that the server tries before the one named. -/
def triedBefore (named : Option Endpoint) : List Endpoint :=
  routes.takeWhile fun endpoint => some endpoint != named

/-- The text has what the server looks for: anywhere for `GET`, at its beginning else. -/
def Endpoint.FoundIn (endpoint : Endpoint) (read : Text) : Prop :=
  if endpoint.method = .get then endpoint.pattern <:+: read else endpoint.pattern <+: read

/-- What a search finds: an item that passes, behind none that does. -/
theorem find?_eq_iff {α : Type} [DecidableEq α] {passes : α → Bool} {items : List α}
    {found : Option α} :
    items.find? passes = found ↔ (∀ item, found = some item → item ∈ items ∧ passes item = true) ∧
      ∀ item ∈ items.takeWhile (fun item => some item != found), passes item = false := by
  induction items with
  | nil => cases found <;> simp
  | cons first rest ih =>
      by_cases hfound : some first = found
      · subst hfound
        cases hfirst : passes first <;> simp [hfirst]
        exact fun h => absurd (List.find?_some h) (Bool.eq_false_iff.mp hfirst)
      · have htake : (first :: rest).takeWhile (fun item => some item != found) =
            first :: rest.takeWhile fun item => some item != found := by
          rw [List.takeWhile_cons, if_pos (bne_iff_ne.mpr hfound)]
        rw [htake, List.forall_mem_cons]
        cases hfirst : passes first with
        | true => simp [hfirst, hfound]
        | false =>
            rw [List.find?_cons, hfirst]
            dsimp only
            rw [ih]
            refine and_congr (forall₂_congr fun item hitem => ?_) (by simp)
            have hne : item ≠ first := fun h => hfound (h ▸ hitem.symm)
            simp [hne]

theorem Endpoint.pattern_ne_nil (endpoint : Endpoint) : endpoint.pattern ≠ [] :=
  List.append_ne_nil_of_right_ne_nil _ (List.cons_ne_nil _ _)

theorem Endpoint.not_mem_pattern (endpoint : Endpoint) :
    '\r' ∉ endpoint.pattern ∧ '\n' ∉ endpoint.pattern := by
  simp [Endpoint.pattern, endpoint.method.text_plain, endpoint.path_plain]

theorem Endpoint.guard_iff {endpoint : Endpoint} {read : Text} :
    endpoint.guard read = true ↔ endpoint.FoundIn read := by
  unfold Endpoint.guard Endpoint.FoundIn
  cases endpoint.method with
  | get => exact contains_iff endpoint.pattern_ne_nil
  | post | delete => exact List.isPrefixOf_iff_prefix

theorem Endpoint.foundIn_of_prefix {endpoint : Endpoint} {read : Text}
    (h : endpoint.pattern <+: read) : endpoint.FoundIn read := by
  unfold Endpoint.FoundIn
  split
  · exact h.isInfix
  · exact h

/-- The server selects an endpoint, or none, exactly if it finds it and none that it
tries earlier. -/
theorem find?_guard_iff (read : Text) (named : Option Endpoint) :
    routes.find? (·.guard read) = named ↔
      (∀ endpoint, named = some endpoint → endpoint.FoundIn read) ∧
        ∀ endpoint ∈ triedBefore named, ¬ endpoint.FoundIn read := by
  rw [find?_eq_iff]
  refine and_congr (forall₂_congr fun endpoint _ => ?_) (forall₂_congr fun endpoint _ => ?_)
  · rw [and_iff_right endpoint.mem_routes, Endpoint.guard_iff]
  · rw [← Bool.not_eq_true, Endpoint.guard_iff]

theorem dispatch_eq_endpoint_iff {read : Text} {endpoint : Endpoint} {arguments : Arguments} :
    dispatch read = .endpoint endpoint arguments ↔
      (endpoint.FoundIn read ∧ ∀ earlier ∈ triedBefore (some endpoint), ¬ earlier.FoundIn read) ∧
        endpoint.arguments read = arguments := by
  have hselect := find?_guard_iff read (some endpoint)
  simp only [Option.some.injEq, forall_eq'] at hselect
  rw [← hselect, dispatch]
  cases hfound : routes.find? (·.guard read) with
  | none => simp
  | some found =>
      dsimp only
      rw [ApiCall.endpoint.injEq, Option.some.injEq]
      exact and_congr_right fun heq => by rw [heq]

theorem dispatch_eq_dashboard_iff {read : Text} :
    dispatch read = .dashboard ↔ ∀ endpoint : Endpoint, ¬ endpoint.FoundIn read := by
  have hselect := find?_guard_iff read none
  have htried : triedBefore none = routes := by decide
  simp only [htried, reduceCtorEq, false_implies, implies_true, true_and] at hselect
  have hall : (∀ endpoint : Endpoint, ¬ endpoint.FoundIn read) ↔
      ∀ endpoint ∈ routes, ¬ endpoint.FoundIn read :=
    ⟨fun h endpoint _ => h endpoint, fun h endpoint => h endpoint endpoint.mem_routes⟩
  rw [hall, ← hselect, dispatch]
  cases routes.find? (·.guard read) <;> simp

/-- The values that two endpoints search for in the whole text are those of the target. -/
def Endpoint.ParametersIn (endpoint : Endpoint) (target behind : Text) : Prop :=
  match endpoint with
  | .setInterface => IfaceIn target behind
  | .toggleDissector => NameIn target behind
  | _ => True

namespace HttpRequest

/-- The endpoint that the request line names. -/
def named (request : HttpRequest) : Option Endpoint :=
  endpointNamed request.method request.target

/-- The method of a request is that of the endpoint it names, and the target has its path. -/
theorem prefix_of_named {request : HttpRequest} {endpoint : Endpoint}
    (h : request.named = some endpoint) :
    endpoint.method.text = request.method ∧ endpoint.path <+: request.target := by
  unfold named endpointNamed at h
  have hnames := List.find?_some h
  exact Endpoint.prefix_of_names hnames

/-- No endpoint that the server tries before the one named is found in the text. -/
def UndisturbedIn (request : HttpRequest) (read : Text) : Prop :=
  ∀ endpoint ∈ triedBefore request.named, ¬ endpoint.FoundIn read

/-- The text that the server looks for is found in a read of the request exactly if the
read begins with it: the request line ends the target, or the read does. -/
theorem foundIn_iff_begins {request : HttpRequest} {endpoint : Endpoint} {read : Text}
    (hnamed : request.named = some endpoint) (hread : LossyPrefix read request.text) :
    endpoint.FoundIn read ↔ endpoint.pattern <+: read := by
  refine ⟨fun hfound => ?_, Endpoint.foundIn_of_prefix⟩
  obtain ⟨hmethod, hpath⟩ := prefix_of_named hnamed
  unfold Endpoint.FoundIn at hfound
  split at hfound
  · have hspace : ' ' ∈ endpoint.pattern := List.mem_append_right _ List.mem_cons_self
    have hopens := opens_of_mem hread (hfound.subset hspace)
    rw [Endpoint.pattern, hmethod, hopens.read_eq] at hfound ⊢
    rcases hopens.whole with hwhole | hend
    · rw [hwhole, List.prefix_append_right_inj, List.prefix_cons_inj]
      exact hpath.trans (List.prefix_append _ _)
    · rw [hend, List.append_nil] at hfound ⊢
      exact prefix_of_infix_separator (not_mem_of_word request.method_word rfl)
        (not_mem_of_word hopens.target_word rfl) hfound
  · exact hfound

/-! ## Which arguments it gets -/

/-- A text that has an endpoint's pattern begins a target that is not empty. -/
theorem opens_of_begins {request : HttpRequest} {endpoint : Endpoint} {read : Text}
    (hread : LossyPrefix read request.text) (hpattern : endpoint.pattern <+: read) :
    request.Opens read := by
  have hspace : ' ' ∈ endpoint.pattern := List.mem_append_right _ List.mem_cons_self
  exact opens_of_mem hread (hpattern.subset hspace)

theorem path_prefix_targetIn {request : HttpRequest} {endpoint : Endpoint} {read : Text}
    (hmethod : endpoint.method.text = request.method) (hopens : request.Opens read)
    (hpattern : endpoint.pattern <+: read) : endpoint.path <+: request.targetIn read := by
  rw [Endpoint.pattern, hmethod, hopens.read_eq, List.prefix_append_right_inj,
    List.prefix_cons_inj] at hpattern
  rcases hopens.behind.separated with hend | ⟨rest, hrest⟩
  · rwa [hend, List.append_nil] at hpattern
  · rw [hrest] at hpattern
    exact (prefix_append_separator_iff endpoint.path_plain.1).mp hpattern

/-- An endpoint without a body takes its arguments from what has been read of the target,
if the values that it searches for are found there. -/
theorem arguments_targetIn_iff {request : HttpRequest} {endpoint : Endpoint} {read : Text}
    (hmethod : endpoint.method.text = request.method) (hread : LossyPrefix read request.text)
    (hpattern : endpoint.pattern <+: read) (hbody : endpoint.takesBody = false) (body : Text) :
    endpoint.arguments read = endpoint.asked (request.targetIn read) body ↔
      endpoint.ParametersIn (request.targetIn read) (request.behindIn read) := by
  have hopens := opens_of_begins hread hpattern
  have hne : request.targetIn read ≠ [] := by
    intro hnil
    have hpath := path_prefix_targetIn hmethod hopens hpattern
    rw [hnil, List.prefix_nil] at hpath
    cases endpoint <;> cases hpath
  have hquery := queryParam_append request.method_ne_nil request.method_word hne
    hopens.target_word hopens.behind.separated
  have hline := parseRequestPath_append request.method_ne_nil request.method_word hne
    hopens.target_word hopens.behind.separated
  rw [← hopens.read_eq] at hquery hline
  cases endpoint with
  | setInterface =>
      have hiface := ifaceArgument_get_iff hopens.target_word hopens.behind
      have hget : request.method = "GET".toList := hmethod.symm
      rwa [← hget, ← hopens.read_eq] at hiface
  | toggleDissector =>
      have hname := dissectorArgument_get_iff hopens.target_word hopens.behind
      have hget : request.method = "GET".toList := hmethod.symm
      rwa [← hget, ← hopens.read_eq] at hname
  | postCaptureToggle | bulkDownload | addIpsRule | ipsMode | postConfig => cases hbody
  | pcapFile | pcapDownload | pcapReconstruct | getCaptureToggle | pcapStorage | pcapCaptures =>
      rw [Endpoint.arguments, hquery, Endpoint.asked]
      exact iff_of_true rfl trivial
  | deleteIpsRule =>
      rw [Endpoint.arguments, hline, Endpoint.asked]
      exact iff_of_true rfl trivial
  | _ => exact iff_of_true rfl trivial

/-- A read that ends in the target has nothing behind it. -/
theorem parametersIn_nil (endpoint : Endpoint) (target : Text) :
    endpoint.ParametersIn target [] := by
  cases endpoint with
  | setInterface =>
      change IfaceIn target []
      unfold IfaceIn
      split
      · exact Or.inr (Nat.zero_le _)
      · rfl
  | toggleDissector => exact Or.inr (by decide)
  | _ => trivial

/-- A text that the server has read holds all that the endpoint needs of the request. -/
structure Carries (request : HttpRequest) (endpoint : Endpoint) (read : Text) : Prop where
  /-- it has got past the path -/
  path : endpoint.pattern <+: read
  /-- what it has of the target asks for the same -/
  target : endpoint.asked (request.targetIn read) request.body =
    endpoint.asked request.target request.body
  /-- what is searched for in the whole text is in the target -/
  parameters : endpoint.ParametersIn (request.targetIn read) (request.behindIn read)
  /-- it has the whole request, if this has a body -/
  body : endpoint.takesBody = true → read = request.text

theorem carries_iff {request : HttpRequest} {endpoint : Endpoint} {read : Text}
    (hnamed : request.named = some endpoint) (hread : LossyPrefix read request.text) :
    request.Carries endpoint read ↔ endpoint.FoundIn read ∧
      endpoint.arguments read = endpoint.asked request.target request.body := by
  obtain ⟨hmethod, -⟩ := prefix_of_named hnamed
  rw [foundIn_iff_begins hnamed hread]
  cases hbody : endpoint.takesBody with
  | false =>
      constructor
      · rintro ⟨hpattern, htarget, hparameters, -⟩
        have hiff := arguments_targetIn_iff hmethod hread hpattern hbody request.body
        exact ⟨hpattern, (hiff.mpr hparameters).trans htarget⟩
      · rintro ⟨hpattern, harguments⟩
        have hiff := arguments_targetIn_iff hmethod hread hpattern hbody request.body
        have hparameters :
            endpoint.ParametersIn (request.targetIn read) (request.behindIn read) := by
          rcases (opens_of_begins hread hpattern).whole with hwhole | hend
          · rw [← hiff, hwhole]
            exact harguments
          · rw [hend]
            exact parametersIn_nil _ _
        exact ⟨hpattern, (hiff.mpr hparameters).symm.trans harguments, hparameters,
          fun h => Bool.noConfusion (hbody.symm.trans h)⟩
  | true =>
      have hfound := hread.findAfter_eq_iff (by decide : "\r\n\r\n".toList ≠ []) (by decide)
        request.findAfter_text
      have harguments : endpoint.arguments read =
          endpoint.asked request.target request.body ↔ read = request.text := by
        rw [← hfound]
        cases endpoint with
        | postCaptureToggle | bulkDownload | addIpsRule | ipsMode | postConfig =>
            rw [Endpoint.arguments, Endpoint.asked, Arguments.body.injEq]
        | _ => cases hbody
      rw [harguments]
      refine ⟨fun h => ⟨h.path, h.body hbody⟩, fun h => ⟨h.1, ?_, ?_, fun _ => h.2⟩⟩
      · cases endpoint with
        | postCaptureToggle | bulkDownload | addIpsRule | ipsMode | postConfig => rfl
        | _ => cases hbody
      · cases endpoint with
        | postCaptureToggle | bulkDownload | addIpsRule | ipsMode | postConfig => trivial
        | _ => cases hbody

/-- For every request and every part of it that the server's read finds: the server does
what method, target and body ask for exactly if no endpoint that is tried earlier is found
in the text read, and this text has all that the endpoint needs. -/
theorem dispatch_eq_asked_iff (request : HttpRequest) (arrived : Nat) :
    dispatch (request.received arrived) = asked request.method request.target request.body ↔
      request.UndisturbedIn (request.received arrived) ∧
        ∀ endpoint, request.named = some endpoint →
          request.Carries endpoint (request.received arrived) := by
  have hread := request.lossyPrefix_received arrived
  generalize request.received arrived = read at hread
  unfold asked UndisturbedIn
  change _ = (match request.named with | some endpoint => _ | none => _) ↔ _
  cases hnamed : request.named with
  | none =>
      have htried : triedBefore none = routes := by decide
      rw [dispatch_eq_dashboard_iff, htried]
      simp [Endpoint.mem_routes]
  | some endpoint =>
      rw [dispatch_eq_endpoint_iff]
      simp only [Option.some.injEq, forall_eq', carries_iff hnamed hread]
      rw [and_comm (a := endpoint.FoundIn read), and_assoc]

/-! ## Requests that are read whole -/

/-- No part of the request mentions a `GET` endpoint that the server tries before the
one named. -/
def Undisturbed (request : HttpRequest) : Prop :=
  ∀ endpoint ∈ triedBefore request.named, endpoint.method = .get →
    ¬ request.Mentions endpoint.pattern

theorem undisturbedIn_text_iff {request : HttpRequest} (hget : request.method = "GET".toList) :
    request.UndisturbedIn request.text ↔ request.Undisturbed := by
  refine forall₂_congr fun endpoint _ => ?_
  obtain ⟨hreturn, hfeed⟩ := endpoint.not_mem_pattern
  unfold Endpoint.FoundIn
  split
  · rename_i hmethod
    rw [forall_prop_of_true hmethod, ← request.contains_text_iff endpoint.pattern_ne_nil hreturn
      hfeed, contains_iff endpoint.pattern_ne_nil]
  · rename_i hmethod
    refine iff_of_true (fun hbegins => hmethod ?_) fun h => absurd h hmethod
    have hnames := (request.prefix_text_iff endpoint.method.text_plain.1 endpoint.path_plain.1).mp
      hbegins
    exact Method.text_injective (hnames.1.trans hget)

/-- The server does this call for a `GET` exactly if it selects the endpoint named and takes
these arguments. -/
theorem dispatch_eq_iff_of_named {request : HttpRequest} {endpoint : Endpoint}
    (hnamed : request.named = some endpoint) (hget : request.method = "GET".toList)
    (arguments : Arguments) :
    dispatch request.text = .endpoint endpoint arguments ↔
      request.Undisturbed ∧ endpoint.arguments request.text = arguments := by
  obtain ⟨hmethod, hpath⟩ := prefix_of_named hnamed
  have hfound : endpoint.FoundIn request.text :=
    Endpoint.foundIn_of_prefix ((request.prefix_text_iff endpoint.method.text_plain.1
      endpoint.path_plain.1).mpr ⟨hmethod, hpath⟩)
  rw [dispatch_eq_endpoint_iff, ← undisturbedIn_text_iff hget, UndisturbedIn, hnamed]
  exact and_congr_left' (and_iff_right hfound)

theorem arguments_text_iff {request : HttpRequest} {endpoint : Endpoint}
    (hnamed : request.named = some endpoint) (hbody : endpoint.takesBody = false) :
    endpoint.arguments request.text = endpoint.asked request.target request.body ↔
      endpoint.ParametersIn request.target request.behindTarget := by
  obtain ⟨hmethod, hpath⟩ := prefix_of_named hnamed
  have hpattern : endpoint.pattern <+: request.text :=
    (request.prefix_text_iff endpoint.method.text_plain.1 endpoint.path_plain.1).mpr
      ⟨hmethod, hpath⟩
  have hiff := arguments_targetIn_iff hmethod (.refl _) hpattern hbody request.body
  rwa [text, targetIn_append, behindIn_append, List.take_left, List.drop_left, ← text] at hiff

end HttpRequest

/-! ## Requests that go elsewhere -/

def plainRequest : HttpRequest where
  method := "GET".toList
  target := "/api/state".toList
  version := ⟨1, 1⟩
  fields := ["Host: ge".toList]
  body := []
  method_ne_nil := by decide
  method_word := word_of_all rfl
  target_ne_nil := by decide
  target_word := word_of_all rfl
  fields_ok := by decide

/-- The same request with a field that mentions another endpoint. -/
def notingRequest : HttpRequest :=
  { plainRequest with
    fields := ["Host: ge".toList, "X-Note: GET /api/capture/toggle".toList]
    fields_ok := by decide }

/-- A new rule whose description mentions an endpoint. -/
def notingPost : HttpRequest :=
  { plainRequest with
    method := "POST".toList
    target := "/api/ips/rules".toList
    body := "[\"GET /api/set-interface?iface=eth1 is watched\"]".toList
    method_ne_nil := by decide
    method_word := word_of_all rfl
    target_ne_nil := by decide
    target_word := word_of_all rfl }

/-- A field of a status request turns the capture on, and the description of a rule
changes the interface. -/
theorem dispatch_ne_asked :
    dispatch (plainRequest.received bufferSize) = .endpoint .state .nothing ∧
    asked notingRequest.method notingRequest.target notingRequest.body =
      .endpoint .state .nothing ∧
    dispatch (notingRequest.received bufferSize) = .endpoint .getCaptureToggle (.enabled true) ∧
    asked notingPost.method notingPost.target notingPost.body =
      .endpoint .addIpsRule (.body (some notingPost.body)) ∧
    dispatch (notingPost.received bufferSize) =
      .endpoint .setInterface (.iface (some "eth1".toList)) := by
  have hsize : ∀ request ∈ [plainRequest, notingRequest, notingPost],
      (bytesOf request.text).length ≤ bufferSize := by
    simp only [List.forall_mem_cons]
    exact ⟨by decide, by decide, by decide, List.forall_mem_nil _⟩
  have hread : ∀ request ∈ [plainRequest, notingRequest, notingPost],
      request.received bufferSize = request.text := fun request hmem =>
    request.received_eq_text (hsize request hmem) (hsize request hmem)
  rw [hread plainRequest (by simp), hread notingRequest (by simp), hread notingPost (by simp)]
  decide

end GeSensor.Server
