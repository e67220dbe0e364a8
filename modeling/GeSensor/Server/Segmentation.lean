/-
  Server/Segmentation.lean --- requests that arrive in several reads.

  `start_metrics_server` reads once, into a buffer of 4096 bytes, and takes what has
  arrived for the request.  A request that arrives in one read of that size is answered
  as a whole.  A first read of one byte is answered with the dashboard page, so the
  answer is independent of the reads only for requests that get this page anyway.
-/
import GeSensor.Server.Dispatch
import GeSensor.Server.JsonAnswers

set_option autoImplicit false

namespace GeSensor.Server

open GeSensor.Foundation

/-- The answer to a connection on which these reads are to be had, and the sensor
afterwards; a connection without bytes gets none. -/
def serve (outside : Outside) (state : AppState) (reads : List Bytes) :
    Option (Answer × AppState) :=
  match reads with
  | [] => none
  | first :: _ =>
      let received := first.take bufferSize
      if received.length > 0 then some (respond outside state (fromUtf8Lossy received)) else none

/-- The reads deliver these bytes. -/
structure Delivers (reads : List Bytes) (bytes : Bytes) : Prop where
  flatten : reads.flatten = bytes
  nonempty : ∀ read ∈ reads, read ≠ []

/-- However the request is delivered, it is answered, with the same effect, as its whole
text is. -/
def IndependentOfReads (bytes : Bytes) : Prop :=
  ∀ reads, Delivers reads bytes → ∀ outside state,
    serve outside state reads = some (respond outside state (fromUtf8Lossy bytes))

/-- A request that fits into the buffer and arrives in one read. -/
theorem serve_whole (outside : Outside) (state : AppState) {bytes : Bytes} (hne : bytes ≠ [])
    (hsize : bytes.length ≤ bufferSize) :
    serve outside state [bytes] = some (respond outside state (fromUtf8Lossy bytes)) := by
  rw [serve, List.take_of_length_le hsize]
  exact if_pos (List.length_pos_of_ne_nil hne)

/-- The text of `received` is the one that is answered. -/
theorem serve_received (outside : Outside) (state : AppState) (request : HttpRequest)
    {arrived : Nat} (harrived : 0 < arrived) (later : List Bytes) :
    serve outside state ((bytesOf request.text).take arrived :: later) =
      some (respond outside state (request.received arrived)) := by
  have htext : 0 < request.text.length :=
    List.length_pos_of_ne_nil (List.append_ne_nil_of_left_ne_nil request.method_ne_nil _)
  have hbytes := Nat.lt_of_lt_of_le htext (length_le_asBytes request.text)
  have hread : ((bytesOf request.text).take arrived).take bufferSize =
      (bytesOf request.text).take (min arrived bufferSize) := by
    rw [List.take_take, Nat.min_comm]
  have hpos : 0 < ((bytesOf request.text).take (min arrived bufferSize)).length := by
    rw [List.length_take, bytesOf, bufferSize]
    omega
  rw [serve, hread]
  exact if_pos hpos

/-! ## What a shorter read can match -/

theorem Endpoint.replacementChar_not_mem_pattern (endpoint : Endpoint) :
    replacementChar ∉ endpoint.pattern := by
  have hroutes : ∀ endpoint ∈ routes, replacementChar ∉ endpoint.pattern := by
    decide +kernel
  exact hroutes endpoint endpoint.mem_routes

/-- An endpoint that a first part of the bytes matches is matched by all of them. -/
theorem Endpoint.foundIn_append {endpoint : Endpoint} {left : Bytes} (right : Bytes)
    (h : endpoint.FoundIn (fromUtf8Lossy left)) :
    endpoint.FoundIn (fromUtf8Lossy (left ++ right)) := by
  have hpattern := endpoint.replacementChar_not_mem_pattern
  unfold Endpoint.FoundIn at h ⊢
  split at h
  · rw [if_pos ‹_›]
    exact infix_fromUtf8Lossy_append endpoint.pattern_ne_nil hpattern right h
  · rw [if_neg ‹_›]
    exact prefix_fromUtf8Lossy_append hpattern right h

/-- A text that an endpoint matches is as long as its pattern. -/
theorem Endpoint.length_pattern_le {endpoint : Endpoint} {request : Text}
    (h : endpoint.FoundIn request) : endpoint.pattern.length ≤ request.length := by
  unfold Endpoint.FoundIn at h
  split at h
  · exact h.length_le
  · exact h.length_le

/-- A first part of a request for the page is one for the page. -/
theorem dispatch_dashboard_of_append {left right : Bytes}
    (h : dispatch (fromUtf8Lossy (left ++ right)) = .dashboard) :
    dispatch (fromUtf8Lossy left) = .dashboard := by
  rw [dispatch_eq_dashboard_iff] at h ⊢
  exact fun endpoint hfound => h endpoint (Endpoint.foundIn_append right hfound)

theorem Endpoint.one_lt_length_pattern (endpoint : Endpoint) : 1 < endpoint.pattern.length := by
  have hroutes : ∀ endpoint ∈ routes, 1 < endpoint.pattern.length := by
    decide +kernel
  exact hroutes endpoint endpoint.mem_routes

/-- One byte is no request for an endpoint. -/
theorem dispatch_singleton (byte : UInt8) : dispatch (fromUtf8Lossy [byte]) = .dashboard := by
  rw [dispatch_eq_dashboard_iff]
  intro endpoint h
  have hlong := endpoint.one_lt_length_pattern
  have hshort := Endpoint.length_pattern_le h
  rw [length_fromUtf8Lossy_singleton] at hshort
  omega

/-! ## No endpoint answers with the page -/

/-- On a bare system, every endpoint but the metrics answers with JSON. -/
theorem contentType_of_endpoint {endpoint : Endpoint} (hmetrics : endpoint ≠ .metrics)
    (request : Text) :
    (endpointAnswer .bare .initial endpoint (endpoint.arguments request)).1.contentType =
      "application/json" := by
  have hcapture : ∀ captureId,
      (pcapFileAnswer .bare .initial captureId).contentType = "application/json" ∧
      (pcapDownloadAnswer .bare .initial captureId).contentType = "application/json" ∧
      (pcapReconstructAnswer .bare .initial captureId).contentType = "application/json" := by
    intro captureId
    cases captureId <;> exact ⟨rfl, rfl, rfl⟩
  have hbody : ∀ body,
      (postCaptureToggleAnswer .bare .initial body).1.contentType = "application/json" ∧
      (bulkDownloadAnswer .bare .initial body).contentType = "application/json" ∧
      (addIpsRuleAnswer .bare .initial body).1.contentType = "application/json" ∧
      (ipsModeAnswer .bare .initial body).1.contentType = "application/json" ∧
      (postConfigAnswer .bare .initial body).1.contentType = "application/json" := by
    intro body
    cases body <;> exact ⟨rfl, rfl, rfl, rfl, rfl⟩
  cases endpoint with
  | metrics => exact absurd rfl hmetrics
  | pcapFile => exact (hcapture _).1
  | pcapDownload => exact (hcapture _).2.1
  | pcapReconstruct => exact (hcapture _).2.2
  | postCaptureToggle => exact (hbody _).1
  | bulkDownload => exact (hbody _).2.1
  | addIpsRule => exact (hbody _).2.2.1
  | ipsMode => exact (hbody _).2.2.2.1
  | postConfig => exact (hbody _).2.2.2.2
  | setInterface =>
      change (setInterfaceAnswer .bare .initial (nonEmpty _)).1.contentType = _
      cases nonEmpty (ifaceText request) <;> rfl
  | toggleDissector =>
      change (toggleDissectorAnswer .initial (dissectorName _)).1.contentType = _
      cases dissectorName (dissectorQuery request) with
      | none => rfl
      | some name =>
          unfold toggleDissectorAnswer
          dsimp only
          split <;> rfl
  | deleteIpsRule =>
      change (deleteIpsRuleAnswer .initial ((parseRequestPath request).map _)).1.contentType = _
      cases parseRequestPath request with
      | none => rfl
      | some path =>
          dsimp only [Option.map_some]
          unfold deleteIpsRuleAnswer
          split
          · rfl
          · rfl
          · split
            · rfl
            · dsimp only
              split <;> rfl
  | _ => rfl

theorem contentType_ne_dashboard (endpoint : Endpoint) (request : Text) :
    (endpointAnswer .bare .initial endpoint (endpoint.arguments request)).1.contentType ≠
      Answer.dashboard.contentType := by
  by_cases hmetrics : endpoint = .metrics
  · subst hmetrics
    change "text/plain; version=0.0.4; charset=utf-8" ≠ "text/html; charset=utf-8"
    decide
  · rw [contentType_of_endpoint hmetrics]
    decide

/-! ## Independence -/

/-- The answer is independent of the reads exactly for the requests that no endpoint
matches; those get the dashboard page. -/
theorem independentOfReads_iff (bytes : Bytes) (hne : bytes ≠ []) :
    IndependentOfReads bytes ↔ dispatch (fromUtf8Lossy bytes) = .dashboard := by
  have hrespond : ∀ outside state request, dispatch request = .dashboard →
      respond outside state request = (.dashboard, state) := by
    intro outside state request hpage
    rw [respond, hpage]
  constructor
  · intro hindependent
    obtain ⟨byte, rest, rfl⟩ := List.exists_cons_of_ne_nil hne
    -- the first byte arrives alone
    have hdelivers : ∃ more, Delivers ([byte] :: more) (byte :: rest) := by
      by_cases hrest : rest = []
      · exact ⟨[], by simp [hrest], by simp⟩
      · exact ⟨[rest], by simp, by simp [hrest]⟩
    obtain ⟨more, hdelivers⟩ := hdelivers
    have hsame := hindependent _ hdelivers .bare .initial
    have hpage : serve .bare .initial ([byte] :: more) = some (.dashboard, .initial) :=
      congrArg some (hrespond _ _ _ (dispatch_singleton byte))
    have hanswer := Option.some.inj (hpage.symm.trans hsame)
    unfold respond at hanswer
    cases hdispatch : dispatch (fromUtf8Lossy (byte :: rest)) with
    | dashboard => rfl
    | endpoint endpoint arguments =>
        rw [hdispatch] at hanswer
        have harguments : arguments = endpoint.arguments (fromUtf8Lossy (byte :: rest)) := by
          unfold dispatch at hdispatch
          split at hdispatch <;> cases hdispatch
          rfl
        subst harguments
        have htype := congrArg (fun answer => answer.1.contentType) hanswer
        exact absurd htype.symm (contentType_ne_dashboard endpoint _)
  · intro hpage reads hdelivers outside state
    obtain ⟨hflatten, hnonempty⟩ := hdelivers
    cases reads with
    | nil => exact absurd hflatten.symm hne
    | cons first more =>
        have hfirst : first ≠ [] := hnonempty first List.mem_cons_self
        have hreceived : 0 < (first.take bufferSize).length := by
          have := List.length_pos_of_ne_nil hfirst
          rw [List.length_take, bufferSize]
          omega
        have hbytes : bytes = first.take bufferSize ++ (first.drop bufferSize ++ more.flatten) := by
          rw [← List.append_assoc, List.take_append_drop, ← hflatten]
          rfl
        rw [serve, if_pos hreceived, hrespond outside state _ hpage]
        rw [hbytes] at hpage
        rw [hrespond outside state _ (dispatch_dashboard_of_append hpage)]

/-- The bytes of a text of ASCII characters. -/
def asciiBytes (text : String) : Bytes := text.toList.map fun char => .ofNat char.toNat

def pageRequest : Bytes := asciiBytes "GET / HTTP/1.1\r\nHost: ge\r\n\r\n"

theorem pageRequest_independent : IndependentOfReads pageRequest :=
  (independentOfReads_iff pageRequest (by decide)).mpr (by decide)

/-! ## A body that arrives later -/

def modeHead : Bytes := asciiBytes "POST /api/ips/mode HTTP/1.1\r\nContent-Length: 17\r\n\r\n"

def modeBody : Bytes := asciiBytes "\x7b\"mode\":\"inline\"\x7d"

/-- A `serde_json` that reads this body. -/
def Outside.readsMode : Outside :=
  { Outside.bare with
    valueFromStr := fun text =>
      if text = literal "\x7b\"mode\":\"inline\"\x7d" then
        .ok (.object [(literal "mode", .string (literal "inline"))])
      else .error "EOF while parsing a value at line 1 column 0" }

/-- The body comes in a second read: the mode is not changed, and the request refused. -/
theorem modeRequest_not_independent :
    ¬IndependentOfReads (modeHead ++ modeBody) ∧
    (∃ answer, serve .readsMode .initial [modeHead ++ modeBody] = some answer ∧
      answer.2.ipsEngine.mode = .inline) ∧
    ∃ answer, serve .readsMode .initial [modeHead, modeBody] = some answer ∧
      answer.1 = .badRequest "invalid json body" ∧ answer.2.ipsEngine.mode = .tap := by
  refine ⟨fun hindependent => ?_, ⟨_, rfl, rfl⟩, ⟨_, rfl, rfl, rfl⟩⟩
  have hwhole := hindependent [modeHead ++ modeBody] ⟨by simp, by decide⟩ .readsMode .initial
  have hsplit := hindependent [modeHead, modeBody] ⟨by simp, by decide⟩ .readsMode .initial
  have hmode := congrArg (Option.map fun answer => answer.2.ipsEngine.mode)
    (hsplit.trans hwhole.symm)
  revert hmode
  decide

end GeSensor.Server
